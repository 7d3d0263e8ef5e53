import LineReview.Text.Line
import LineReview.Text.LetterCase

set_option autoImplicit false

namespace LineReview

inductive Language where
  | javascript
  | typescript
  | python
  | java
  | cpp
  | go
  | rust
  deriving DecidableEq

namespace Language

def all : List Language :=
  [.javascript, .typescript, .python, .java, .cpp, .go, .rust]

/-- The name under which reports and settings know the language. -/
def tag : Language → String
  | .javascript => "javascript"
  | .typescript => "typescript"
  | .python => "python"
  | .java => "java"
  | .cpp => "cpp"
  | .go => "go"
  | .rust => "rust"

/-- The name shown to people. -/
def label : Language → String
  | .javascript => "JavaScript"
  | .typescript => "TypeScript"
  | .python => "Python"
  | .java => "Java"
  | .cpp => "C++"
  | .go => "Go"
  | .rust => "Rust"

/-- The other names accepted for the language. -/
def aliases : Language → List String
  | .javascript => ["js"]
  | .typescript => ["ts"]
  | .python => ["py"]
  | .java => []
  | .cpp => ["c++"]
  | .go => ["golang"]
  | .rust => ["rs"]

def names (language : Language) : List String :=
  language.tag :: language.aliases

/-- The file extensions of the language, without their dots. -/
def extensions : Language → List String
  | .javascript => ["js", "jsx", "mjs", "cjs"]
  | .typescript => ["ts", "tsx", "mts", "cts"]
  | .python => ["py", "pyw"]
  | .java => ["java"]
  | .cpp => ["cpp", "cc", "cxx", "hpp", "hh", "hxx", "h"]
  | .go => ["go"]
  | .rust => ["rs"]

def isScript : Language → Bool
  | .javascript | .typescript => true
  | _ => false

/-- Reads a name, whatever its case and the blanks around it. -/
def parse? (name : String) : Option Language :=
  let lowered := Text.lower (Text.trim Text.isBlank name.toList)
  all.find? fun language => language.names.any fun known => known.toList == lowered

def ofTag? (text : String) : Option Language :=
  all.find? fun language => language.tag == text

/-- The language of a file extension, in any ASCII case. -/
def ofExtension? (ext : String) : Option Language :=
  all.find? fun language =>
    language.extensions.any fun known => known.toList == Text.lowerAscii ext.toList

def unknown (name : String) : String :=
  "unknown language: " ++ name

theorem ofTag?_tag (language : Language) : ofTag? language.tag = some language := by
  cases language <;> rfl

end Language

end LineReview
