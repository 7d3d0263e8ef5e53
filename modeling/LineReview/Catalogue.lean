import LineReview.Finding
import LineReview.Json.Basic
import LineReview.Rule
import LineReview.Text.LetterCase
import LineReview.Text.Line

set_option autoImplicit false

namespace LineReview

/-- A construct with its explanation. -/
structure Topic where
  id : String
  title : String
  explanation : String
  concepts : List String
  /-- The texts that give the construct away. -/
  signs : List String

namespace Topic

def matchesLine (topic : Topic) (line : Line) : Bool :=
  topic.signs.any fun sign => Text.contains sign.toList line

def noteAt (topic : Topic) (number : Nat) (line : Line) : Note where
  id := Note.idFor number topic.id
  line := number
  code := String.ofList line
  explanation := topic.explanation
  concepts := topic.concepts

def functionDefinition : Topic where
  id := "function"
  title := "Function definition"
  explanation :=
    "This line defines a function, which is a reusable block of code that performs a specific task. Functions help organize code, reduce repetition, and make programs more modular and maintainable."
  concepts := ["Functions", "Code Organization", "Reusability", "Modularity"]
  signs := ["function", "def "]

def conditional : Topic where
  id := "conditional"
  title := "Conditional statement"
  explanation :=
    "This is a conditional statement that executes different code paths based on whether a condition evaluates to true or false. It's fundamental for creating decision-making logic in programs."
  concepts := ["Conditional Logic", "Control Flow", "Boolean Logic", "Decision Making"]
  signs := ["if ", "if("]

def loop : Topic where
  id := "loop"
  title := "Loop statement"
  explanation :=
    "This is a loop statement that repeats a block of code multiple times. Loops are essential for processing collections of data, performing repetitive tasks, and implementing algorithms efficiently."
  concepts := ["Loops", "Iteration", "Control Flow", "Repetition"]
  signs := ["for ", "while "]

def variableDeclaration : Topic where
  id := "variable"
  title := "Variable declaration"
  explanation :=
    "This line declares a variable, which is a named storage location that holds a value. Variables are fundamental building blocks that allow programs to store, retrieve, and manipulate data."
  concepts := ["Variables", "Data Storage", "Memory Management", "Scope"]
  signs := ["const ", "let ", "var "]

def classDefinition : Topic where
  id := "class"
  title := "Class definition"
  explanation :=
    "This line defines a class, which is a blueprint for creating objects. Classes encapsulate data and behavior, enabling object-oriented programming principles like inheritance and polymorphism."
  concepts := ["Classes", "Object-Oriented Programming", "Encapsulation", "Objects"]
  signs := ["class "]

def importStatement : Topic where
  id := "import"
  title := "Import statement"
  explanation :=
    "This line imports external modules or libraries, allowing you to use pre-written code and functionality. This promotes code reuse and helps organize large applications."
  concepts := ["Modules", "Imports", "Code Reuse", "Dependencies"]
  signs := ["import ", "from ", "require("]

def all : List Topic :=
  [functionDefinition, conditional, loop, variableDeclaration, classDefinition, importStatement]

end Topic

/-- Notes are given on lines that are neither empty nor comments. -/
def Line.isExplainable (line : Line) : Bool :=
  !line.isEmpty && !"//".toList.isPrefixOf line && !"#".toList.isPrefixOf line

/-- The notes of all topics recognised on a line, whatever the line. -/
def Topic.notesOn (number : Nat) (line : Line) : List Note :=
  (all.filter fun topic => topic.matchesLine line).map fun topic => topic.noteAt number line

structure CatalogueEntry where
  id : String
  title : String
  category : String
  scope : String
  description : String
  hasRepair : Bool
  deriving DecidableEq

def CatalogueEntry.toJson (entry : CatalogueEntry) : Json :=
  .object [
    ("id", .string entry.id),
    ("title", .string entry.title),
    ("category", .string entry.category),
    ("scope", .string entry.scope),
    ("description", .string entry.description),
    ("has_fix", .bool entry.hasRepair)]

namespace Catalogue

def ofRule (rule : Rule) : CatalogueEntry where
  id := rule.id
  title := rule.title
  category := rule.kind.tag
  scope := rule.scope.label
  description := rule.description
  hasRepair := rule.template.isSome

def ofTopic (topic : Topic) : CatalogueEntry where
  id := topic.id
  title := topic.title
  category := "explanation"
  scope := Scope.everywhere.label
  description := topic.explanation
  hasRepair := false

def entries : List CatalogueEntry :=
  Rule.all.map ofRule ++ Topic.all.map ofTopic

/-- The text contains the term when both are in lower case. -/
def mentions (term : List Char) (text : String) : Bool :=
  Text.contains (Text.lower term) (Text.lower text.toList)

/-- The entries whose title or description contains the term. -/
def search (term : String) : List CatalogueEntry :=
  entries.filter fun entry => mentions term.toList entry.title ||
    mentions term.toList entry.description

end Catalogue

end LineReview
