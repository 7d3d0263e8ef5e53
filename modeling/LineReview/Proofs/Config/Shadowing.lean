import LineReview.Proofs.Command.Starter

set_option autoImplicit false

namespace LineReview.Config

/-- The places at which settings are looked for when none are asked for: two in the folder, and one
of the user. -/
def places (environment : Environment) : List String :=
  "./decode.yaml" :: "./.decode.yaml" :: (userPath? environment).toList

theorem candidates_eq_places (environment : Environment) :
    candidates environment "." = places environment := rfl

/-- The path is the first of the places that is a file, whatever else the places before it are, and
the file has this content. -/
structure Chosen (environment : Environment) (tree : FileTree) (path : String)
    (content : ByteArray) : Prop where
  first : ∃ earlier later, places environment = earlier ++ path :: later ∧
    ∀ other ∈ earlier, tree.isFile environment.folder other = false
  file : tree.nodeAt? environment.folder path = some (.file content)

/-- What loading comes to when it is left to a document of this content: the settings that the
document spells, if they can be used, and otherwise a failure that says what is wrong with the
document. -/
inductive Verdict (path : String) (content : ByteArray) :
    Except ConfigError (Config × Option String) → Prop where
  | unreadable (error : FileError) (garbled : textOfBytes content = .error error) :
      Verdict path content (.error (.unreadable path error))
  | malformed (text : String) (spelt : textOfBytes content = .ok text)
    (unclear : read? text = none) :
      Verdict path content (.error (.malformed path))
  | unusable (text : String) (config : Config) (fault : ConfigFault)
      (spelt : textOfBytes content = .ok text)
      (understood : read? text = some config) (refused : config.validate = .error fault)
      (useless : ¬ config.Usable) :
      Verdict path content (.error (.unusable fault))
  | loaded (text : String) (config : Config) (spelt : textOfBytes content = .ok text)
      (understood : read? text = some config) (usable : config.Usable) :
      Verdict path content (.ok (config, some path))

section Discovery

variable {environment : Environment} {tree : FileTree} {path : String} {content : ByteArray}

theorem chosen_iff :
    Chosen environment tree path content ↔
      discover environment tree "." = some path ∧
        tree.nodeAt? environment.folder path = some (.file content) := by
  rw [discover, candidates_eq_places, List.find?_eq_some_iff_append]
  simp only [Bool.not_eq_true']
  constructor
  · rintro ⟨first, file⟩
    exact ⟨⟨FileTree.isFile_iff.mpr ⟨content, file⟩, first⟩, file⟩
  · rintro ⟨⟨-, first⟩, file⟩
    exact ⟨first, file⟩

theorem exists_chosen (found : discover environment tree "." = some path) :
    ∃ content, Chosen environment tree path content := by
  obtain ⟨content, file⟩ := FileTree.isFile_iff.mp (List.find?_some found)
  exact ⟨content, chosen_iff.mpr ⟨found, file⟩⟩

theorem discover_eq_none_iff :
    discover environment tree "." = none ↔
      ∀ path ∈ places environment, tree.isFile environment.folder path = false := by
  rw [discover, candidates_eq_places, List.find?_eq_none]
  simp only [Bool.not_eq_true]

theorem verdict_loadAt (file : tree.nodeAt? environment.folder path = some (.file content)) :
    Verdict path content
      ((loadAt environment tree path).map fun config => (config, some path)) := by
  rw [loadAt, FileTree.readText_of_file file]
  cases spelt : textOfBytes content with
  | error error => exact .unreadable error spelt
  | ok text =>
      dsimp only
      cases understood : read? text with
      | none => exact .malformed text spelt understood
      | some config =>
          dsimp only
          cases accepted : config.validate with
          | ok _ =>
            exact .loaded text config spelt understood (validate_eq_ok_iff_usable.mp accepted)
          | error fault =>
              have useless : ¬ config.Usable := by
                intro usable
                rw [validate_eq_ok_iff_usable.mpr usable] at accepted
                cases accepted
              exact .unusable text config fault spelt understood accepted useless

theorem Verdict.loadAt_eq {result : Except ConfigError (Config × Option String)}
    (verdict : Verdict path content result)
    (file : tree.nodeAt? environment.folder path = some (.file content)) :
    (loadAt environment tree path).map (fun config => (config, some path)) = result := by
  rw [loadAt, FileTree.readText_of_file file]
  cases verdict with
  | unreadable error garbled =>
      simp only [garbled]
      rfl
  | malformed text spelt unclear =>
      simp only [spelt, unclear]
      rfl
  | unusable text config fault spelt understood refused useless =>
      simp only [spelt, understood, refused]
      rfl
  | loaded text config spelt understood usable =>
      have accepted := validate_eq_ok_iff_usable.mpr usable
      simp only [spelt, understood, accepted]
      rfl

/-- The verdict on a file that is asked for or discovered is what loading comes to. -/
theorem load_eq_iff_verdict (asked : Option String)
    (left : asked.or (discover environment tree ".") = some path)
    (file : tree.nodeAt? environment.folder path = some (.file content))
    {result : Except ConfigError (Config × Option String)} :
    load environment tree asked = result ↔ Verdict path content result := by
  rw [load, left]
  constructor
  · rintro rfl
    exact verdict_loadAt file
  · intro verdict
    exact verdict.loadAt_eq file

/-- Settings come from nowhere only where none of the places is a file. -/
theorem load_eq_nowhere_iff {config : Config} :
    load environment tree none = .ok (config, none) ↔
      config = default ∧ ∀ path ∈ places environment,
        tree.isFile environment.folder path = false := by
  rw [load_eq_ok_iff, Option.none_or, discover_eq_none_iff, and_comm]

theorem load_congr {other : FileTree}
    (files : ∀ path ∈ places environment,
      other.isFile environment.folder path = tree.isFile environment.folder path)
    (same : ∀ path content, Chosen environment tree path content →
      other.nodeAt? environment.folder path = some (.file content)) :
    load environment other none = load environment tree none := by
  have discovered : discover environment other "." = discover environment tree "." := by
    rw [discover, discover, candidates_eq_places, ← List.head?_filter, ← List.head?_filter,
      List.filter_congr files]
  cases found : discover environment tree "." with
  | none =>
      rw [load, load, discovered, found]
      rfl
  | some path =>
      obtain ⟨content, chosen⟩ := exists_chosen found
      rw [found] at discovered
      rw [load_eq_iff_verdict none discovered (same path content chosen)]
      exact (load_eq_iff_verdict none found chosen.file).mp rfl

theorem load_asked_congr {reader : Environment} {other : FileTree}
    (same : other.read reader.folder path = tree.read environment.folder path) :
    load reader other (some path) = load environment tree (some path) := by
  simp only [load, loadAt, Option.some_or, FileTree.readText, same]

theorem load_asked_of_missing (missing : tree.nodeAt? environment.folder path = none) :
    ∃ error, load environment tree (some path) = .error (.unreadable path error) := by
  obtain ⟨error, unread⟩ := FileTree.exists_error_of_missing missing
  refine ⟨error, ?_⟩
  have spelt : tree.readText environment.folder path = .error error := by
    rw [FileTree.readText, unread]
    rfl
  rw [load, Option.some_or]
  dsimp only
  rw [loadAt, spelt]
  rfl

end Discovery

/-- The first of the places that is a file decides what is loaded, by its content alone and even if
it cannot be used; where none is a file, and only there, the defaults are loaded from nowhere. Trees
with the same files at the places and the same content in the deciding one are not told apart. A
path that is asked for decides alone, and must not lead nowhere. -/
theorem load_by_first_document (environment : Environment) (tree : FileTree) :
    (∀ path content, Chosen environment tree path content →
      ∀ result, load environment tree none = result ↔ Verdict path content result) ∧
    (∀ config, load environment tree none = .ok (config, none) ↔
      config = default ∧ ∀ path ∈ places environment,
        tree.isFile environment.folder path = false) ∧
    (∀ other : FileTree,
      (∀ path ∈ places environment,
        other.isFile environment.folder path = tree.isFile environment.folder path) →
      (∀ path content, Chosen environment tree path content →
        other.nodeAt? environment.folder path = some (.file content)) →
      load environment other none = load environment tree none) ∧
    (∀ path content, tree.nodeAt? environment.folder path = some (.file content) →
      ∀ result, load environment tree (some path) = result ↔ Verdict path content result) ∧
    (∀ (path : String) (reader : Environment) (other : FileTree),
      other.read reader.folder path = tree.read environment.folder path →
      load reader other (some path) = load environment tree (some path)) ∧
    (∀ path, tree.nodeAt? environment.folder path = none →
      ∃ error, load environment tree (some path) = .error (.unreadable path error)) := by
  refine ⟨?_, fun _ => load_eq_nowhere_iff, fun _ => load_congr, ?_,
    fun _ _ _ => load_asked_congr,
    fun _ => load_asked_of_missing⟩
  · intro path content chosen result
    exact load_eq_iff_verdict none (chosen_iff.mp chosen).1 chosen.file
  · intro path content file result
    exact load_eq_iff_verdict (some path) rfl file

/-- The user's settings are found in the home folder. -/
def atHome : Environment where
  folder := ["work"]
  bindings := [("HOME", "/home")]
  accountHome := none
  input := ByteArray.empty
  coloured := false

/-- A folder takes the first place, settings in a format that there is not the second, and the
user's settings the third. -/
def shadowed (ofUser : String) : FileTree :=
  .ofList [
    (["work"], .folder), (["decode.yaml", "work"], .folder),
    ([".decode.yaml", "work"], .file "format: xml\n".toUTF8),
    (["home"], .folder), ([".config", "home"], .folder), (["decode", ".config", "home"], .folder),
    (["decode.yaml", "decode", ".config", "home"], .file ofUser.toUTF8)]

/-- The folder is passed over and the unknown format is not, whatever the user's settings are; these
are loaded where they are asked for. -/
theorem load_by_first_document_in_home :
    Chosen atHome (shadowed "format: json\n") "./.decode.yaml" "format: xml\n".toUTF8 ∧
      load atHome (shadowed "format: json\n") none = .error (.unusable (.unknownFormat "xml")) ∧
      load atHome (shadowed "[") none = load atHome (shadowed "format: json\n") none ∧
      load atHome (shadowed "format: json\n") (some "/home/.config/decode/decode.yaml") =
        .ok ({ format := some "json" }, some "/home/.config/decode/decode.yaml") ∧
      ∃ error, load atHome (shadowed "format: json\n") (some "settings.yaml") =
        .error (.unreadable "settings.yaml" error) := by
  obtain ⟨first, -, told, asked, -, missing⟩ :=
    load_by_first_document atHome (shadowed "format: json\n")
  have passed : (shadowed "format: json\n").isFile atHome.folder "./decode.yaml" = false := by
    decide +kernel
  have hidden : (shadowed "format: json\n").nodeAt? atHome.folder "./.decode.yaml" =
      some (.file "format: xml\n".toUTF8) := rfl
  have ofUser : (shadowed "format: json\n").nodeAt? atHome.folder
      "/home/.config/decode/decode.yaml" =
        some (.file "format: json\n".toUTF8) := rfl
  have chosen : Chosen atHome (shadowed "format: json\n") "./.decode.yaml" "format: xml\n".toUTF8 :=
    ⟨⟨["./decode.yaml"],
      ["/home/.config/decode/decode.yaml"], by decide +kernel, by simpa using passed⟩, hidden⟩
  have same : ∀ path content, Chosen atHome (shadowed "format: json\n") path content →
      (shadowed "[").nodeAt? atHome.folder path = some (.file content) := by
    intro path content other
    have found := (chosen_iff.mp other).1
    rw [(chosen_iff.mp chosen).1] at found
    obtain rfl := Option.some.inj found
    have held := other.file
    rw [hidden] at held
    rw [← held]
    rfl
  have unknown : read? "format: xml\n" = some { format := some "xml" } := by decide +kernel
  have useless : ¬ Config.Usable { format := some "xml" } := by
    intro usable
    exact absurd usable.format (by decide)
  have known : read? "format: json\n" = some { format := some "json" } := by decide +kernel
  have accepted : Config.validate { format := some "json" } = .ok () := rfl
  exact ⟨chosen,
    (first _ _ chosen _).mpr (.unusable _ _ _ (textOfBytes_toUTF8 _) unknown rfl useless),
    told _ (by decide +kernel) same,
    (asked _ _ ofUser _).mpr
      (.loaded _ _ (textOfBytes_toUTF8 _) known (validate_eq_ok_iff_usable.mp accepted)),
    missing _ rfl⟩

end LineReview.Config
