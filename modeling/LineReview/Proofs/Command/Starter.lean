import LineReview.Proofs.Command.Start
import LineReview.Proofs.Config.Loading

set_option autoImplicit false

namespace LineReview

namespace FileTree

theorem locate_of_persists {before after : FileTree} (persists : Persists before after)
    {folder location : Location} {path : String} (led : before.locate folder path = .ok location) :
    after.locate folder path = .ok location := by
  rw [locate_eq_ok_iff] at led ⊢
  exact ⟨led.1, persists.walk_ok led.2⟩

/-- Where a file can be written, it can be written later on. -/
theorem Target.persists {before after : FileTree} {folder parent : Location} {path name : String}
    (target : before.Target folder path name parent) (persists : Persists before after) :
    after.Target folder path name parent := by
  obtain ⟨front, whole, led⟩ := target.led
  exact ⟨target.sound, ⟨front, whole, persists.walk_ok led⟩,
    persists.folder parent target.inside, target.solid,
    target.named, target.short⟩

end FileTree

namespace Config

theorem Started.persists {before after : FileTree} (started : Started before after) :
    before.Persists after where
  folder := started.folders
  taken := by
    intro location taken
    obtain ⟨node, found⟩ := Option.isSome_iff_exists.mp taken
    cases node with
    | folder => simp [started.folders location found]
    | file content => rcases started.files location content found with same | starter <;> simp [*]

def starter : Config where
  language := some "javascript"
  format := some "pretty"

/-- Lines that are put together are spelled by the characters of each of them and the line feeds. -/
theorem join_lines_eq_ofList {lines : List String} {spelled : List (List Char)}
    (each : List.Forall₂ (fun line chars => line = String.ofList chars) lines spelled) :
    String.join (lines.map (· ++ "\n")) = String.ofList (spelled.map (· ++ ['\n'])).flatten := by
  have same : lines = spelled.map String.ofList := by
    induction each with
    | nil => rfl
    | cons first rest ih => rw [first, ih, List.map_cons]
  rw [← String.toList_inj, same]
  simp [List.flatMap_def, Function.comp_def]

-- The characters are taken from the lines themselves: to look them up in the text one by one takes
-- very long.
theorem read?_template : read? template = some starter := by
  have spelled : template = _ := join_lines_eq_ofList (by
    unfold templateLines
    repeat' constructor)
  rw [spelled, read?, Yaml.read?, String.toList_ofList]
  decide +kernel

theorem validate_starter : starter.validate = .ok () := rfl

theorem textOfBytes_toUTF8 (text : String) : textOfBytes text.toUTF8 = .ok text := by
  have valid : String.fromUTF8? text.toUTF8 = some text := dif_pos text.isValidUTF8
  rw [textOfBytes, valid]

variable {environment : Environment} {tree : FileTree} {path : String}

/-- Where the starter document stands, the settings in it are loaded. -/
theorem load_of_template
    (placed : tree.nodeAt? environment.folder path = some (.file template.toUTF8)) :
    load environment tree (some path) = .ok (starter, some path) := by
  have read : tree.readText environment.folder path = .ok template := by
    rw [FileTree.readText_of_file placed, textOfBytes_toUTF8]
  have loaded : loadAt environment tree path = .ok starter :=
    loadAt_eq_ok_iff.mpr ⟨template, read, read?_template,
      validate_eq_ok_iff_usable.mp validate_starter⟩
  exact load_eq_ok_iff.mpr ⟨rfl, loaded⟩

/-- Folders may have been added on the way to the folder that the path lies in, and nowhere else. -/
structure MadeWay (environment : Environment) (path : String) (before after : FileTree) : Prop where
  kept : ∀ location, before.get? location = some .folder → after.get? location = some .folder
  made : ∀ location, before.get? location = none → after.get? location = some .folder →
    ∃ folder, Path.parent? path = some folder ∧
      after.OnTheWay (FileTree.start environment.folder folder) (Path.pieces folder) location

theorem madeWay_refl (environment : Environment) (path : String) (tree : FileTree) :
    MadeWay environment path tree tree where
  kept := fun _ found => found
  made := by
    intro location absent there
    rw [absent] at there
    cases there

theorem madeWay_makeFolderOf (environment : Environment) (tree : FileTree) (path : String) :
    MadeWay environment path tree (makeFolderOf environment tree path).1 := by
  have grown := grown_makeFolderOf environment tree path
  refine ⟨fun location found => grown.kept location _ found, ?_⟩
  intro location absent there
  have missing : tree.get? location ≠ some .folder := by
    rw [absent]
    nofun
  unfold makeFolderOf at there ⊢
  cases lies : Path.parent? path with
  | none =>
      rw [lies] at there
      exact absurd there missing
  | some folder =>
      rw [lies] at there
      refine ⟨folder, rfl, ?_⟩
      dsimp only at there ⊢
      split at there
      · exact absurd there missing
      · rename_i named
        rw [if_neg named]
        unfold FileTree.makeFoldersAt at there ⊢
        cases checked : FileTree.checkPath folder with
        | error error =>
            rw [checked] at there
            exact absurd there missing
        | ok done =>
            rw [checked] at there
            have reached := FileTree.onTheWay_of_makeFolders _ _ absent (by rw [there]; rfl)
            rwa [List.reverse_reverse] at reached

/-- A file put into the tree is no folder on the way. -/
theorem MadeWay.put {before after : FileTree} (way : MadeWay environment path before after)
    {name : String} {parent : Location} (inside : after.get? parent = some .folder)
    (free : after.get? (name :: parent) ≠ some .folder) :
    MadeWay environment path before (after.put (name :: parent) (.file template.toUTF8)) where
  kept := fun location found => (started_put inside free).folders location (way.kept location found)
  made := by
    intro location absent there
    rw [FileTree.get?_put inside free] at there
    by_cases here : name :: parent = location
    · rw [if_pos here] at there
      cases there
    rw [if_neg here] at there
    obtain ⟨folder, lies, reached⟩ := way.made location absent there
    exact ⟨folder, lies, reached.persists (started_put inside free).persists⟩

/-- The document is declined: nothing is put out, and every file is left as it is. -/
structure Declined (environment : Environment) (tree : FileTree) (path : String)
    (outcome : Outcome) : Prop where
  exitCode : outcome.exitCode.number = 2
  output : outcome.output = ""
  files : ∀ location content,
    outcome.tree.get? location = some (.file content) ↔ tree.get? location = some (.file content)
  way : MadeWay environment path tree outcome.tree

/-- The document is placed where the path led nowhere, and no other file is touched. -/
structure Placed (environment : Environment) (tree : FileTree) (path : String) (outcome : Outcome) :
    Prop where
  exitCode : outcome.exitCode.number = 0
  vacant : tree.nodeAt? environment.folder path = none
  placed : outcome.tree.nodeAt? environment.folder path = some (.file template.toUTF8)
  others : ∃ location, outcome.tree.locate environment.folder path = .ok location ∧
    ∀ other, other ≠ location → ∀ content,
      outcome.tree.get? other = some (.file content) ↔ tree.get? other = some (.file content)
  way : MadeWay environment path tree outcome.tree

/-- A document at the path is left alone, and the settings in it are the defaults but for the
language and the format, which is named although it is the default. -/
structure Settled (environment : Environment) (tree : FileTree) (path : String) : Prop where
  again : (start environment tree path).exitCode.number = 2 ∧
    (start environment tree path).tree = tree
  loaded : ∃ config, load environment tree (some path) = .ok (config, some path) ∧
  config.validate = .ok () ∧
    config = { default with language := config.language, format := config.format } ∧
    config.formatName = default.formatName

theorem declined_refusal {after : FileTree} (grown : tree.Grown after)
    (way : MadeWay environment path tree after) (complaint : Complaint) :
    Declined environment tree path (.refusal after [] complaint) where
  exitCode := rfl
  output := rfl
  files := fun location _ => ⟨grown.file, grown.kept location _⟩
  way := way

theorem placed_put (free : tree.isTaken environment.folder path = false) {name : String}
    {parent : Location}
    (target : (makeFolderOf environment tree path).1.Target environment.folder path name parent)
    (vacant : (makeFolderOf environment tree path).1.get? (name :: parent) ≠ some .folder)
    {outcome : Outcome} (success : outcome.exitCode = .success)
    (put : outcome.tree =
      (makeFolderOf environment tree path).1.put (name :: parent) (.file template.toUTF8)) :
    Placed environment tree path outcome := by
  have grown := grown_makeFolderOf environment tree path
  have there : outcome.tree.get? (name :: parent) = some (.file template.toUTF8) := by
    rw [put, FileTree.get?_put target.inside vacant, if_pos rfl]
  have led : outcome.tree.locate environment.folder path = .ok (name :: parent) := by
    rw [put]
    refine (target.persists (started_put target.inside vacant).persists).locate ?_
    rw [← put, there]
    rfl
  refine ⟨by rw [success]; rfl, ?_, ?_, ⟨name :: parent, led, ?_⟩, ?_⟩
  · rwa [FileTree.isTaken, Option.isSome_eq_false_iff, Option.isNone_iff_eq_none] at free
  · exact FileTree.nodeAt?_eq_some_iff.mpr ⟨name :: parent, led, there⟩
  · intro other apart content
    rw [put, FileTree.get?_put target.inside vacant, if_neg (Ne.symm apart)]
    exact ⟨grown.file, grown.kept other _⟩
  · rw [put]
    exact (madeWay_makeFolderOf environment tree path).put target.inside vacant

/-- A starter document is declined or placed. -/
theorem start_cases (environment : Environment) (tree : FileTree) (path : String) :
    Declined environment tree path (start environment tree path) ∨
      Placed environment tree path (start environment tree path) := by
  have grown := grown_makeFolderOf environment tree path
  have way := madeWay_makeFolderOf environment tree path
  by_cases taken : tree.isTaken environment.folder path = true
  · rw [start, if_pos taken]
    exact Or.inl (declined_refusal (.refl tree) (madeWay_refl environment path tree) _)
  · have free : tree.isTaken environment.folder path = false := by simpa using taken
    rw [start, if_neg taken]
    cases made : makeFolderOf environment tree path with
    | mk added result =>
        have same : (makeFolderOf environment tree path).1 = added := by rw [made]
        rw [same] at grown way
        cases result with
        | error error => exact Or.inl (declined_refusal grown way _)
        | ok done =>
            dsimp only
            cases written : added.write environment.folder path template.toUTF8 with
            | error error => exact Or.inl (declined_refusal grown way _)
            | ok after =>
                obtain ⟨name, parent, target, vacant, put⟩ :=
                  FileTree.write_eq_ok_iff.mp written
                rw [← same] at target vacant put
                exact Or.inr (placed_put free target vacant rfl put)

/-- A starter document that stands at a path is left alone there, whatever else has been added to
the tree. -/
theorem settled_of_started {before after : FileTree} (started : Started before after)
    {reader : Environment}
    (placed : before.nodeAt? reader.folder path = some (.file template.toUTF8)) :
    Settled reader after path := by
  obtain ⟨location, led, held⟩ := FileTree.nodeAt?_eq_some_iff.mp placed
  have there : after.get? location = some (.file template.toUTF8) :=
    (started.files location _ held).elim id id
  have still : after.nodeAt? reader.folder path = some (.file template.toUTF8) :=
    FileTree.nodeAt?_eq_some_iff.mpr
      ⟨location, FileTree.locate_of_persists started.persists led, there⟩
  have taken : after.isTaken reader.folder path = true := by
    rw [FileTree.isTaken, still]
    rfl
  have declined : start reader after path = .refusal after [] (.alreadyThere path) := by
    rw [start, if_pos taken]
  refine ⟨?_, starter, load_of_template still, validate_starter, rfl, rfl⟩
  rw [declined]
  exact ⟨rfl, rfl⟩

/-- A starter document is declined, and then no file is touched, or placed where the path led
nowhere. Then it is settled: after any commands, those for whom the path starts at the same place
find it there and find the default settings in it. -/
theorem start_outcome (environment : Environment) (tree : FileTree) (path : String) :
    Declined environment tree path (start environment tree path) ∨
    Placed environment tree path (start environment tree path) ∧
      ∀ endpoint commands reader,
        FileTree.start reader.folder path = FileTree.start environment.folder path →
        Settled reader (Command.runAll endpoint (start environment tree path).tree commands)
          path := by
  rcases start_cases environment tree path with declined | placed
  · exact Or.inl declined
  · refine Or.inr ⟨placed, ?_⟩
    intro endpoint commands reader same
    have started := Command.started_runAll endpoint (start environment tree path).tree commands
    apply settled_of_started started
    rw [FileTree.nodeAt?_congr same]
    exact placed.placed

/-- In a folder for work without folders in it, a starter document is placed two folders down. -/
theorem start_outcome_below_missing :
    Placed Command.atWork Command.workplace "conf/team/settings.yaml"
      (start Command.atWork Command.workplace "conf/team/settings.yaml") ∧
    Settled Command.atWork (start Command.atWork Command.workplace "conf/team/settings.yaml").tree
      "conf/team/settings.yaml" := by
  rcases start_outcome Command.atWork Command.workplace "conf/team/settings.yaml" with
    declined | ⟨placed, settled⟩
  · have success : (start Command.atWork Command.workplace
        "conf/team/settings.yaml").exitCode.number = 0 := rfl
    rw [declined.exitCode] at success
    cases success
  · exact ⟨placed, settled (fun _ => .unreachable) [] Command.atWork rfl⟩

end Config

end LineReview
