import LineReview.Command.Basic

set_option autoImplicit false

namespace LineReview

theorem toOption_eq_some_iff {Error Value : Type} {result : Except Error Value} {value : Value} :
    result.toOption = some value ↔ result = .ok value := by
  cases result <;> simp [Except.toOption]

namespace Source

def nameOf (path : String) : String :=
  if path == inputPath then inputName else path

/-- The bytes of the source text at a path, if they can be read. -/
def bytes? (environment : Environment) (tree : FileTree) (path : String) : Option ByteArray :=
  if path == inputPath then some environment.input else (tree.read environment.folder path).toOption

/-- The source text at a path, if its bytes can be read and spell a text. -/
def text? (environment : Environment) (tree : FileTree) (path : String) : Option String :=
  (bytes? environment tree path).bind String.fromUTF8?

theorem toOption_textOfBytes (content : ByteArray) :
    (textOfBytes content).toOption = String.fromUTF8? content := by
  unfold textOfBytes
  cases String.fromUTF8? content <;> rfl

theorem toOption_readText (tree : FileTree) (folder : Location) (path : String) :
    (tree.readText folder path).toOption =
      (tree.read folder path).toOption.bind String.fromUTF8? := by
  unfold FileTree.readText
  cases tree.read folder path with
  | error error => rfl
  | ok content => exact toOption_textOfBytes content

theorem toOption_read (environment : Environment) (tree : FileTree) (path : String) :
    (read environment tree path).toOption =
      (text? environment tree path).map fun text => { name := nameOf path, text } := by
  by_cases input : (path == inputPath) = true
  · have spelt := toOption_textOfBytes environment.input
    simp only [read, text?, bytes?, nameOf, if_pos input, Option.bind_some]
    rw [← spelt]
    cases textOfBytes environment.input <;> rfl
  · have spelt := toOption_readText tree environment.folder path
    simp only [read, text?, bytes?, nameOf, if_neg input]
    rw [← spelt]
    cases tree.readText environment.folder path <;> rfl

theorem read_eq_ok_iff {environment : Environment} {tree : FileTree} {path : String}
    {source : Source} :
    read environment tree path = .ok source ↔
      text? environment tree path = some source.text ∧ source.name = nameOf path := by
  rw [← toOption_eq_some_iff, toOption_read, Option.map_eq_some_iff]
  constructor
  · rintro ⟨text, spelt, rfl⟩
    exact ⟨spelt, rfl⟩
  · rintro ⟨spelt, named⟩
    exact ⟨source.text, spelt, by rw [← named]⟩

theorem read_eq_error {environment : Environment} {tree : FileTree} {path : String}
    {complaint : Complaint} (failed : read environment tree path = .error complaint) :
    ∃ error, complaint = .unreadableInput error ∨ complaint = .unreadable path error := by
  unfold read at failed
  split at failed
  · split at failed
    · cases failed
    · rename_i error _
      cases failed
      exact ⟨error, Or.inl rfl⟩
  · split at failed
    · cases failed
    · rename_i error _
      cases failed
      exact ⟨error, Or.inr rfl⟩

end Source

end LineReview
