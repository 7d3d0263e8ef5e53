import LineReview.Command.Run
import LineReview.Proofs.FileSystem.Growth

set_option autoImplicit false

/-! What commands do to files. Only writing a starter document touches the tree at all. It refuses a
path that leads to something, but it looks before it makes the missing folders: a path that climbs
out of a folder that is still missing can lead to an old file afterwards, which is then overwritten.
Every other file is left alone. -/

namespace LineReview

namespace FileTree

/-- Some `..` of the path climbs out of a folder that is missing. -/
def ClimbsOutOfMissing (tree : FileTree) (folder : Location) (path : String) : Prop :=
  ∃ up down, Path.pieces path = up ++ ".." :: down ∧
    tree.walk (start folder path) (up ++ [".."]) = .error .notFound

theorem isTaken_of_locate {tree : FileTree} {folder location : Location} {path : String}
    {node : Node} (led : tree.locate folder path = .ok location)
    (found : tree.get? location = some node) : tree.isTaken folder path = true := by
  rw [isTaken, nodeAt?, led]
  simp only [found, Option.isSome_some]

/-- A path that leads to something old in the grown tree led there before, unless it climbs out of a
missing folder. -/
theorem Grown.locate_ok_of_old {before after : FileTree} (grown : Grown before after)
    {folder location : Location} {path : String} (led : after.locate folder path = .ok location)
    (old : (before.get? location).isSome = true)
    (direct : ¬ before.ClimbsOutOfMissing folder path) :
    before.locate folder path = .ok location := by
  rw [locate_eq_ok_iff] at led ⊢
  refine ⟨led.1, grown.walk_ok_of_old led.2 old ?_⟩
  intro up down split missing
  exact direct ⟨up, down, split, missing⟩

end FileTree

namespace Config

/-- Starter documents are the only files that the tree after has and the tree before has not. They
may stand in the place of other files; nothing is removed. -/
structure Started (before after : FileTree) : Prop where
  folders : ∀ location, before.get? location = some .folder → after.get? location = some .folder
  files : ∀ location content, before.get? location = some (.file content) →
    after.get? location = some (.file content) ∨
      after.get? location = some (.file template.toUTF8)
  fresh : ∀ location content, after.get? location = some (.file content) →
    before.get? location = some (.file content) ∨ content = template.toUTF8

theorem Started.trans {first second third : FileTree} (early : Started first second)
    (late : Started second third) : Started first third where
  folders := fun location found => late.folders location (early.folders location found)
  files := by
    intro location content found
    rcases early.files location content found with same | starter
    · exact late.files location content same
    · exact Or.inr ((late.files location _ starter).elim id id)
  fresh := by
    intro location content found
    rcases late.fresh location content found with second | starter
    · exact early.fresh location content second
    · exact Or.inr starter

theorem started_of_grown {before after : FileTree} (grown : before.Grown after) :
    Started before after where
  folders := fun location found => grown.kept location _ found
  files := fun location _ found => Or.inl (grown.kept location _ found)
  fresh := fun _ _ found => Or.inl (grown.file found)

theorem started_put {tree : FileTree} {name : String} {parent : Location}
    (inside : tree.get? parent = some .folder)
    (free : tree.get? (name :: parent) ≠ some .folder) :
    Started tree (tree.put (name :: parent) (.file template.toUTF8)) where
  folders := by
    intro location found
    have apart : name :: parent ≠ location := by
      rintro rfl
      exact free found
    rw [FileTree.get?_put inside free, if_neg apart, found]
  files := by
    intro location content found
    rw [FileTree.get?_put inside free]
    split_ifs
    · exact Or.inr rfl
    · exact Or.inl found
  fresh := by
    intro location content found
    rw [FileTree.get?_put inside free] at found
    split_ifs at found
    · cases found
      exact Or.inr rfl
    · exact Or.inl found

variable {environment : Environment} {tree : FileTree} {path : String}

theorem grown_makeFolderOf (environment : Environment) (tree : FileTree) (path : String) :
    tree.Grown (makeFolderOf environment tree path).1 := by
  unfold makeFolderOf
  split
  · exact .refl tree
  · split
    · exact .refl tree
    · exact tree.grown_makeFoldersAt _ _

/-- What writing a starter document does to the tree: it grows, and a document is put where the path
leads then, if it led nowhere at first. -/
theorem start_tree_cases (environment : Environment) (tree : FileTree) (path : String) :
    (start environment tree path).tree = tree ∧ tree.isTaken environment.folder path = true ∨
    (start environment tree path).tree = (makeFolderOf environment tree path).1 ∧
      ((makeFolderOf environment tree path).2 = .ok () →
        ∃ error,
          (makeFolderOf environment tree path).1.write environment.folder path template.toUTF8 =
            .error error) ∨
    tree.isTaken environment.folder path = false ∧
    (makeFolderOf environment tree path).2 = .ok () ∧
      (makeFolderOf environment tree path).1.write environment.folder path template.toUTF8 =
        .ok (start environment tree path).tree := by
  unfold start
  split
  · rename_i taken
    exact Or.inl ⟨rfl, taken⟩
  · rename_i free
    cases made : makeFolderOf environment tree path with
    | mk grown result =>
        cases result with
        | error error => exact Or.inr (Or.inl ⟨rfl, nofun⟩)
        | ok done =>
            dsimp only
            cases written : grown.write environment.folder path template.toUTF8 with
            | error error => exact Or.inr (Or.inl ⟨rfl, fun _ => ⟨error, rfl⟩⟩)
            | ok written => exact Or.inr (Or.inr ⟨by simpa using free, rfl, rfl⟩)

/-- Writing a starter document leaves no other new file. -/
theorem started_start (environment : Environment) (tree : FileTree) (path : String) :
    Started tree (start environment tree path).tree := by
  have grown := grown_makeFolderOf environment tree path
  rcases start_tree_cases environment tree path
    with ⟨same, -⟩ | ⟨made, -⟩ | ⟨-, -, written⟩
  · rw [same]
    exact started_of_grown (.refl tree)
  · rw [made]
    exact started_of_grown grown
  · obtain ⟨name, parent, target, free, put⟩ := FileTree.write_eq_ok_iff.mp written
    rw [put]
    exact (started_of_grown grown).trans (started_put target.inside free)

/-- The path leads nowhere, but once its folder has been made it leads to the location. -/
def Strikes (environment : Environment) (tree : FileTree) (path : String) (location : Location) :
    Prop :=
  tree.isTaken environment.folder path = false ∧
  (makeFolderOf environment tree path).2 = .ok () ∧
    (makeFolderOf environment tree path).1.locate environment.folder path = .ok location

/-- A path that strikes something old climbs out of a missing folder. -/
theorem Strikes.climbs {location : Location} {node : Node}
    (struck : Strikes environment tree path location) (found : tree.get? location = some node) :
    tree.ClimbsOutOfMissing environment.folder path := by
  obtain ⟨free, -, led⟩ := struck
  have grown := grown_makeFolderOf environment tree path
  by_contra direct
  have early := grown.locate_ok_of_old led (by rw [found]; rfl) direct
  have taken := FileTree.isTaken_of_locate early found
  rw [free] at taken
  cases taken

/-- A file that is struck holds the starter document afterwards. -/
theorem Strikes.get? {location : Location} {content : ByteArray}
    (struck : Strikes environment tree path location)
    (found : tree.get? location = some (.file content)) :
    (start environment tree path).tree.get? location = some (.file template.toUTF8) := by
  obtain ⟨free, made, led⟩ := struck
  have grown := grown_makeFolderOf environment tree path
  have there := grown.kept location _ found
  obtain ⟨name, parent, rfl, target⟩ := FileTree.target_of_locate led there
  have unlike : (makeFolderOf environment tree path).1.get? (name :: parent) ≠ some .folder := by
    rw [there]
    nofun
  have written : (makeFolderOf environment tree path).1.write environment.folder path
      template.toUTF8 =
        .ok ((makeFolderOf environment tree path).1.put (name :: parent) (.file template.toUTF8)) :=
    FileTree.write_eq_ok_iff.mpr ⟨name, parent, target, unlike, rfl⟩
  rcases start_tree_cases environment tree path
    with ⟨-, taken⟩ | ⟨-, failed⟩ | ⟨-, -, done⟩
  · rw [free] at taken
    cases taken
  · obtain ⟨error, failed⟩ := failed made
    rw [written] at failed
    cases failed
  · rw [written] at done
    rw [← Except.ok.inj done, FileTree.get?_put target.inside unlike, if_pos rfl]

/-- A file that is not struck is left alone. -/
theorem get?_start_of_not_strikes {location : Location} {content : ByteArray}
    (missed : ¬ Strikes environment tree path location)
    (found : tree.get? location = some (.file content)) :
    (start environment tree path).tree.get? location = some (.file content) := by
  have grown := grown_makeFolderOf environment tree path
  have there := grown.kept location _ found
  rcases start_tree_cases environment tree path
    with ⟨same, -⟩ | ⟨made, -⟩ | ⟨free, made, written⟩
  · rw [same, found]
  · rw [made, there]
  · obtain ⟨name, parent, target, vacant, put⟩ := FileTree.write_eq_ok_iff.mp written
    have apart : name :: parent ≠ location := by
      rintro rfl
      exact missed ⟨free, made, target.locate (by rw [there]; rfl)⟩
    rw [put, FileTree.get?_put target.inside vacant, if_neg apart, there]

end Config

namespace ReviewOptions

theorem run_tree (options : ReviewOptions) (environment : Environment) (tree : FileTree) :
    (options.run environment tree).tree = tree := by
  unfold run
  split
  · rfl
  · dsimp only
    split <;> rfl

end ReviewOptions

namespace SourceOptions

theorem explain_tree (options : SourceOptions) (environment : Environment) (tree : FileTree)
    (endpoint : Assistant.Endpoint) : (options.explain environment tree endpoint).tree = tree := by
  unfold explain
  split
  · rfl
  · split
    · rfl
    · dsimp only
      split <;> rfl

end SourceOptions

namespace Command

variable {endpoint : Assistant.Endpoint} {tree : FileTree}

/-- The command writes a starter document. -/
def Starts (command : Command) : Prop :=
  ∃ output, command = .start output

/-- A command that writes no starter document leaves the tree alone. -/
theorem run_tree {command : Command} (reading : ¬ command.Starts) (environment : Environment)
    (endpoint : Assistant.Endpoint) (tree : FileTree) :
    (command.run environment endpoint tree).tree = tree := by
  cases command with
  | review options => exact options.run_tree environment tree
  | explain source => exact source.explain_tree environment tree endpoint
  | catalogue options => rfl
  | languages => rfl
  | start output => exact absurd ⟨output, rfl⟩ reading

theorem started_run (environment : Environment) (endpoint : Assistant.Endpoint) (tree : FileTree)
    (command : Command) : Config.Started tree (command.run environment endpoint tree).tree := by
  by_cases starts : command.Starts
  · obtain ⟨output, rfl⟩ := starts
    exact Config.started_start environment tree output
  · rw [run_tree starts]
    exact Config.started_of_grown (.refl tree)

/-- A command that does not strike a file leaves it alone. -/
theorem get?_run_of_not_strikes {environment : Environment} {command : Command}
    {location : Location} {content : ByteArray}
    (missed : ∀ output, command = .start output →
      ¬ Config.Strikes environment tree output location)
    (found : tree.get? location = some (.file content)) :
    (command.run environment endpoint tree).tree.get? location = some (.file content) := by
  by_cases starts : command.Starts
  · obtain ⟨output, rfl⟩ := starts
    exact Config.get?_start_of_not_strikes (missed output rfl) found
  · rw [run_tree starts, found]

/-- Some command of a run strikes the location: when it starts, it is about to write a starter
document to a path that leads there only once its folder has been made. -/
def Struck (endpoint : Assistant.Endpoint) (tree : FileTree)
    (commands : List (Environment × Command)) (location : Location) : Prop :=
  ∃ before environment output after, commands = before ++
    (environment, .start output) :: after ∧
    Config.Strikes environment (runAll endpoint tree before) output location

theorem runAll_concat (endpoint : Assistant.Endpoint) (tree : FileTree)
    (before : List (Environment × Command)) (entry : Environment × Command) :
    runAll endpoint tree (before ++ [entry]) =
      (entry.2.run entry.1 endpoint (runAll endpoint tree before)).tree := by
  simp only [runAll, List.foldl_append, List.foldl_cons, List.foldl_nil]

theorem started_runAll (endpoint : Assistant.Endpoint) (tree : FileTree)
    (commands : List (Environment × Command)) :
    Config.Started tree (runAll endpoint tree commands) := by
  induction commands using List.reverseRecOn with
  | nil => exact Config.started_of_grown (.refl tree)
  | append_singleton before entry ih =>
      rw [runAll_concat]
      exact ih.trans (started_run entry.1 endpoint _ entry.2)

theorem struck_concat {before : List (Environment × Command)} {entry : Environment × Command}
    {location : Location} :
    Struck endpoint tree (before ++ [entry]) location ↔
      Struck endpoint tree before location ∨
        ∃ output, entry.2 = .start output ∧
          Config.Strikes entry.1 (runAll endpoint tree before) output location := by
  constructor
  · rintro ⟨first, environment, output, after, split, strikes⟩
    rcases List.eq_nil_or_concat after with rfl | ⟨middle, last, rfl⟩
    · obtain ⟨rfl, same⟩ := List.append_inj' split rfl
      cases same
      exact Or.inr ⟨output, rfl, strikes⟩
    · have earlier : before = first ++ (environment, .start output) :: middle := by
        rw [List.concat_eq_append, ← List.cons_append, ← List.append_assoc] at split
        exact (List.append_inj' split rfl).1
      exact Or.inl ⟨first, environment, output, middle, earlier, strikes⟩
  · rintro (⟨first, environment, output, after, rfl, strikes⟩ | ⟨output, same, strikes⟩)
    · exact ⟨first, environment, output, after ++ [entry], by simp, strikes⟩
    · exact ⟨before, entry.1, output, [], by rw [← same], strikes⟩

/-- A file holds the starter document after a run that strikes it, and what it held before after any
other run. -/
theorem get?_runAll (commands : List (Environment × Command)) {location : Location}
    {content : ByteArray} (found : tree.get? location = some (.file content)) :
    (Struck endpoint tree commands location →
      (runAll endpoint tree commands).get? location = some (.file Config.template.toUTF8)) ∧
    (¬ Struck endpoint tree commands location →
      (runAll endpoint tree commands).get? location = some (.file content)) := by
  induction commands using List.reverseRecOn with
  | nil =>
      refine ⟨?_, fun _ => found⟩
      rintro ⟨before, environment, output, after, split, -⟩
      simp at split
  | append_singleton before entry ih =>
      obtain ⟨environment, command⟩ := entry
      have kept : ∀ held, (runAll endpoint tree before).get? location = some (.file held) →
          (∀ output, command = .start output →
            ¬ Config.Strikes environment (runAll endpoint tree before) output location) →
          (command.run environment endpoint (runAll endpoint tree before)).tree.get? location =
            some (.file held) :=
        fun held there missed => get?_run_of_not_strikes missed there
      obtain ⟨old, there⟩ : ∃ old, (runAll endpoint tree before).get? location =
          some (.file old) := by
        by_cases struck : Struck endpoint tree before location
        · exact ⟨_, ih.1 struck⟩
        · exact ⟨_, ih.2 struck⟩
      rw [struck_concat, runAll_concat]
      constructor
      · intro struck
        -- A file that has been struck before holds the starter document already, and keeps it
        -- whatever the command does.
        by_cases last : ∃ output, command = .start output ∧
            Config.Strikes environment (runAll endpoint tree before) output location
        · obtain ⟨output, rfl, strikes⟩ := last
          exact strikes.get? there
        · have early : Struck endpoint tree before location := struck.resolve_right last
          exact kept _ (ih.1 early) fun output same strikes => last ⟨output, same, strikes⟩
      · intro missed
        rw [not_or] at missed
        exact kept content (ih.2 missed.1) fun output same strikes =>
          missed.2 ⟨output, same, strikes⟩

/-- Old files are struck only by commands whose path climbs out of a folder that is missing when
they start. -/
theorem Struck.climbs {commands : List (Environment × Command)} {location : Location}
    {content : ByteArray} (struck : Struck endpoint tree commands location)
    (found : tree.get? location = some (.file content)) :
    ∃ before environment output after, commands = before ++
      (environment, .start output) :: after ∧
      (runAll endpoint tree before).ClimbsOutOfMissing environment.folder output := by
  obtain ⟨before, environment, output, after, split, strikes⟩ := struck
  have started := started_runAll endpoint tree before
  refine ⟨before, environment, output, after, split, ?_⟩
  rcases started.files location content found with there | there
  · exact strikes.climbs there
  · exact strikes.climbs there

/-- What a run does to files. An old file is replaced by the starter document if a command strikes
it, which takes a path that climbs out of a missing folder, and keeps its content otherwise. Every
other file afterwards holds the starter document, and commands that write none leave the tree
alone. -/
theorem runAll_files (endpoint : Assistant.Endpoint) (tree : FileTree)
    (commands : List (Environment × Command)) :
    (∀ location content, tree.get? location = some (.file content) →
      (Struck endpoint tree commands location →
        (runAll endpoint tree commands).get? location = some (.file Config.template.toUTF8) ∧
        ∃ before environment output after, commands = before ++
          (environment, .start output) :: after ∧
          (runAll endpoint tree before).ClimbsOutOfMissing environment.folder output) ∧
      (¬ Struck endpoint tree commands location →
        (runAll endpoint tree commands).get? location = some (.file content))) ∧
    (∀ location content, (runAll endpoint tree commands).get? location = some (.file content) →
      tree.get? location = some (.file content) ∨ content = Config.template.toUTF8) ∧
    (∀ before environment command after, commands = before ++ (environment, command) :: after →
      ¬ command.Starts →
        runAll endpoint tree (before ++ [(environment, command)]) =
          runAll endpoint tree before) := by
  refine ⟨?_, (started_runAll endpoint tree commands).fresh, ?_⟩
  · intro location content found
    obtain ⟨replaced, kept⟩ := get?_runAll commands found
    exact ⟨fun struck => ⟨replaced struck, struck.climbs found⟩, kept⟩
  · intro before environment command after _ reading
    rw [runAll_concat, run_tree reading]

def workplace : FileTree :=
  .ofList [(["work"], .folder), (["decode.yaml", "work"], .file "fail_on: excellent\n".toUTF8)]

def atWork : Environment where
  folder := ["work"]
  bindings := []
  accountHome := none
  input := ByteArray.empty
  coloured := false

/-- After a command that only lists, one strikes the settings: they are not found through `conf`
until it is made. -/
theorem runAll_files_at_work :
    Struck (fun _ => .unreachable) workplace [(atWork, .languages),
      (atWork, .start "conf/../decode.yaml")]
      ["decode.yaml", "work"] ∧
    (runAll (fun _ => .unreachable) workplace [(atWork, .languages),
      (atWork, .start "conf/../decode.yaml")]).get?
      ["decode.yaml", "work"] = some (.file Config.template.toUTF8) := by
  have struck : Struck (fun _ => .unreachable) workplace
      [(atWork, .languages), (atWork, .start "conf/../decode.yaml")] ["decode.yaml", "work"] :=
    ⟨[(atWork, .languages)], atWork, "conf/../decode.yaml", [], rfl, by decide, rfl, rfl⟩
  exact ⟨struck, (((runAll_files _ workplace _).1 _ _ rfl).1 struck).1⟩

/-- Old settings are lost when a starter document is written to them on the way through a folder
that is missing. -/
theorem runAll_loses_settings :
    workplace.get? ["decode.yaml", "work"] = some (.file "fail_on: excellent\n".toUTF8) ∧
    (runAll (fun _ => .unreachable) workplace [(atWork, .start "conf/../decode.yaml")]).get?
      ["decode.yaml", "work"] = some (.file Config.template.toUTF8) ∧
    Config.template.toUTF8 ≠ "fail_on: excellent\n".toUTF8 := by
  refine ⟨rfl, ?_, ?_⟩
  · rfl
  · decide +kernel

end Command

end LineReview
