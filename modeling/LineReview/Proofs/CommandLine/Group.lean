import LineReview.CommandLine.Arguments
import LineReview.Proofs.Text.Trim
import Mathlib.Data.List.Pairwise
import Mathlib.Data.List.Nodup

set_option autoImplicit false

namespace LineReview.CommandLine

inductive Label where
  /-- By its name, after two dashes. -/
  | long
  /-- By a letter, after one dash. -/
  | short (letter : Char)

namespace Label

def argument (parameter : Parameter) : Label → String
  | .long => "--" ++ parameter.name
  | .short letter => String.ofList ['-', letter]

def Names (parameter : Parameter) : Label → Prop
  | .long => True
  | .short letter => parameter.letter = some letter

instance (parameter : Parameter) : (label : Label) → Decidable (label.Names parameter)
  | .long => inferInstanceAs (Decidable True)
  | .short letter => inferInstanceAs (Decidable (parameter.letter = some letter))

end Label

/-- Arguments that belong together. -/
inductive Group where
  /-- The path that stands by itself. -/
  | path (value : String)
  | flag (parameter : Parameter) (label : Label)
  /-- A parameter with its value in the next argument. -/
  | apart (parameter : Parameter) (label : Label) (value : String)
  /-- A parameter with its value after an equals sign. -/
  | joined (parameter : Parameter) (value : String)

/-- The text is taken for a value wherever it stands: it is not empty and does not start with a
dash. -/
def IsValue (text : String) : Prop :=
  text ≠ "" ∧ text.toList.head? ≠ some '-'

instance (text : String) : Decidable (IsValue text) :=
  inferInstanceAs (Decidable (_ ∧ _))

namespace Group

def arguments : Group → List String
  | .path value => [value]
  | .flag parameter label => [label.argument parameter]
  | .apart parameter label value => [label.argument parameter, value]
  | .joined parameter value => ["--" ++ parameter.name ++ "=" ++ value]

def entry : Group → Parameter × String
  | .path value => (ownPath, value)
  | .flag parameter _ => (parameter, "")
  | .apart parameter _ value | .joined parameter value => (parameter, value)

/-- The parameter is named as it is declared, has a value if it takes one, and the value is not
taken for anything else. -/
def Sound : Group → Prop
  | .path value => value = "-" ∨ IsValue value
  | .flag parameter label => parameter.role = .flag ∧ label.Names parameter
  | .apart parameter label value =>
      (parameter.role.takesValue = true ∧ parameter ≠ ownPath) ∧
        label.Names parameter ∧ IsValue value
  | .joined parameter value =>
    (parameter.role.takesValue = true ∧ parameter ≠ ownPath) ∧ IsValue value

instance : (group : Group) → Decidable group.Sound
  | .path _ => inferInstanceAs (Decidable (_ ∨ _))
  | .flag .. | .apart .. | .joined .. => inferInstanceAs (Decidable (_ ∧ _))

end Group

def byName (entry : Parameter × String) : String × String :=
  (entry.1.name, entry.2)

section Form

/-- After two dashes the name ends where an equals sign stands, and the value follows it. -/
theorem ofArgument_dashes {argument : String} {name value : List Char} (plain : '=' ∉ name)
    (filled : name ++ value ≠ []) (chars : argument.toList = '-' :: '-' :: (name ++ value))
    (starts : ∀ char ∈ value.head?, char = '=') :
    Form.ofArgument argument = .long (String.ofList name) (value.tail?.map String.ofList) := by
  have taken : (name ++ value).takeWhile (· != '=') = name := Text.takeWhile_to_mark plain starts
  have dropped : (name ++ value).dropWhile (· != '=') = value :=
    Text.dropWhile_to_mark plain starts
  rw [Form.ofArgument, chars]
  split
  case h_1 same => simp_all
  case h_2 rest _ same =>
    simp only [List.cons.injEq, true_and] at same
    rw [← same, taken, dropped]
    cases value <;> rfl
  case h_3 letter letters _ other same =>
    simp only [List.cons.injEq, true_and] at same
    exact absurd same.1.symm other
  case h_4 => simp_all

theorem ofArgument_long {name : String} (filled : name ≠ "") (plain : '=' ∉ name.toList) :
    Form.ofArgument ("--" ++ name) = .long name none := by
  have some : name.toList ++ [] ≠ [] := by simpa using filled
  rw [ofArgument_dashes plain some (by simp) nofun, String.ofList_toList]
  rfl

theorem ofArgument_joined {name value : String} (plain : '=' ∉ name.toList) :
    Form.ofArgument ("--" ++ name ++ "=" ++ value) = .long name (some value) := by
  have starts : ∀ char ∈ ('=' :: value.toList).head?, char = '=' := by simp
  rw [ofArgument_dashes plain (List.append_ne_nil_of_right_ne_nil _ (List.cons_ne_nil _ _))
    (by simp) starts,
    String.ofList_toList]
  simp

theorem ofArgument_short {letter : Char} (plain : letter ≠ '-') :
    Form.ofArgument (String.ofList ['-', letter]) = .short [letter] := by
  rw [Form.ofArgument, String.toList_ofList]
  split <;> simp_all

theorem ofArgument_value {value : String} (usable : value = "-" ∨ IsValue value) :
    Form.ofArgument value = .word := by
  rcases usable with rfl | ⟨filled, first⟩
  · rfl
  · rw [Form.ofArgument]
    split <;> simp_all

end Form

/-- Two parameters that are never taken for one another. -/
def Parameter.Apart (first second : Parameter) : Prop :=
  first.name ≠ second.name ∧ (first.letter = second.letter → first.letter = none)

instance (first second : Parameter) : Decidable (first.Apart second) :=
  inferInstanceAs (Decidable (_ ∧ _))

instance : Std.Symm Parameter.Apart where
  symm _ _ apart := ⟨apart.1.symm, fun same => same.trans (apart.2 same.symm)⟩

/-- A parameter whose name can be told from its dashes and its value. -/
def Parameter.Plain (parameter : Parameter) : Prop :=
  parameter.name ≠ "" ∧ '=' ∉ parameter.name.toList ∧ parameter.letter ≠ some '-'

instance (parameter : Parameter) : Decidable parameter.Plain :=
  inferInstanceAs (Decidable (_ ∧ _))

namespace Grammar

/-- The parameters of a grammar are told from one another, by name as by letter. -/
structure Clear (grammar : Grammar) : Prop where
  apart : grammar.parameters.Pairwise Parameter.Apart
  plain : ∀ parameter ∈ grammar.parameters, parameter.Plain

/-- The grammar has the parameter, be it the path that stands by itself. -/
def Has (grammar : Grammar) (parameter : Parameter) : Prop :=
  parameter ∈ grammar.parameters ∨ parameter = ownPath ∧ grammar.takesPath = true

variable {grammar : Grammar} {parameter : Parameter}

theorem Clear.eq_of_not_apart (clear : grammar.Clear) {other : Parameter}
    (listed : parameter ∈ grammar.parameters) (otherListed : other ∈ grammar.parameters)
    (alike : ¬parameter.Apart other) : parameter = other := by
  by_contra different
  exact alike (clear.apart.forall listed otherListed different)

theorem Clear.named? (clear : grammar.Clear) (listed : parameter ∈ grammar.parameters) :
    grammar.named? parameter.name = some parameter := by
  rw [Grammar.named?]
  cases found : grammar.parameters.find? fun other => other.name == parameter.name with
  | none => simpa using List.find?_eq_none.mp found parameter listed
  | some other =>
      have same : other.name = parameter.name := by simpa using List.find?_some found
      rw [clear.eq_of_not_apart (List.mem_of_find?_eq_some found) listed fun apart => apart.1 same]

theorem Clear.lettered? (clear : grammar.Clear) (listed : parameter ∈ grammar.parameters)
    {letter : Char} (declared : parameter.letter = some letter) :
    grammar.lettered? letter = some parameter := by
  rw [Grammar.lettered?]
  cases found : grammar.parameters.find? fun other => other.letter == some letter with
  | none => simpa [declared] using List.find?_eq_none.mp found parameter listed
  | some other =>
      have same : other.letter = some letter := by simpa using List.find?_some found
      rw [clear.eq_of_not_apart (List.mem_of_find?_eq_some found) listed fun apart => ?_]
      rw [apart.2 (same.trans declared.symm)] at same
      cases same

end Grammar

end LineReview.CommandLine
