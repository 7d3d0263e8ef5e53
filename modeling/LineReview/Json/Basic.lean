set_option autoImplicit false

namespace LineReview

inductive Json where
  | null
  | bool (value : Bool)
  /-- A number without sign, fraction or exponent. -/
  | natural (value : Nat)
  /-- Any other number, as it is written. -/
  | number (literal : String)
  | string (value : String)
  | array (items : List Json)
  | object (members : List (String × Json))
  /-- A text with an unpaired surrogate, an object with such a member name, or a number beyond all
  bounds. -/
  | unusable

namespace Json

def texts (values : List String) : Json :=
  .array (values.map .string)

/-- A text, or null where there is none. -/
def optionalText : Option String → Json
  | none => .null
  | some value => .string value

end Json

end LineReview

namespace LineReview.Json

def hexDigit (value : Nat) : Char :=
  Nat.digitChar value

/-- How one character is written inside a text. -/
def escape (char : Char) : List Char :=
  if char = '"' then ['\\', '"']
  else if char = '\\' then ['\\', '\\']
  else if char = '\x08' then ['\\', 'b']
  else if char = '\t' then ['\\', 't']
  else if char = '\n' then ['\\', 'n']
  else if char = '\x0c' then ['\\', 'f']
  else if char = '\r' then ['\\', 'r']
  else if char.toNat < 0x20 then
    ['\\', 'u', '0', '0', hexDigit (char.toNat / 16), hexDigit (char.toNat % 16)]
  else [char]

def quote (text : List Char) : List Char :=
  ['"'] ++ text.flatMap escape ++ ['"']

/-- Where a layout puts blanks. -/
structure Layout where
  /-- What stands before an item, or before the closing bracket, at a depth. -/
  gap : Nat → List Char
  /-- What separates a member's name from its value. -/
  colon : List Char

def Layout.compact : Layout where
  gap := fun _ => []
  colon := [':']

/-- Every item on a line of its own. -/
def Layout.indented : Layout where
  gap := fun depth => '\n' :: List.replicate (2 * depth) ' '
  colon := [':', ' ']

mutual

/-- A value that starts at a depth. -/
def render (layout : Layout) (depth : Nat) : Json → List Char
  | .null => "null".toList
  | .bool true => "true".toList
  | .bool false => "false".toList
  | .natural value => Nat.toDigits 10 value
  | .number literal => literal.toList
  | .string value => quote value.toList
  | .array [] => ['[', ']']
  | .array (first :: rest) =>
    ['['] ++ layout.gap (depth + 1) ++ render layout (depth + 1) first ++
      renderItems layout depth rest ++ [']']
  | .object [] => ['\x7b', '\x7d']
  | .object ((name, first) :: rest) =>
    ['\x7b'] ++ layout.gap (depth + 1) ++ quote name.toList ++ layout.colon ++
      render layout (depth + 1) first ++ renderMembers layout depth rest ++ ['\x7d']
  | .unusable => "null".toList

/-- The further items of an array at a depth, up to its closing bracket. -/
def renderItems (layout : Layout) (depth : Nat) : List Json → List Char
  | [] => layout.gap depth
  | item :: rest =>
    [','] ++ layout.gap (depth + 1) ++ render layout (depth + 1) item ++
      renderItems layout depth rest

/-- The further members of an object at a depth, up to its closing brace. -/
def renderMembers (layout : Layout) (depth : Nat) : List (String × Json) → List Char
  | [] => layout.gap depth
  | (name, value) :: rest =>
    [','] ++ layout.gap (depth + 1) ++ quote name.toList ++ layout.colon ++
      render layout (depth + 1) value ++ renderMembers layout depth rest

end

section Rendering

variable (layout : Layout) (depth : Nat)

theorem render_natural (value : Nat) :
    render layout depth (.natural value) = Nat.toDigits 10 value := rfl

theorem render_number (literal : String) :
    render layout depth (.number literal) = literal.toList := rfl

theorem render_string (value : String) :
    render layout depth (.string value) = quote value.toList := rfl

theorem render_array_cons (first : Json) (rest : List Json) :
    render layout depth (.array (first :: rest)) =
      ['['] ++ layout.gap (depth + 1) ++ render layout (depth + 1) first ++
        renderItems layout depth rest ++ [']'] := rfl

theorem render_object_cons (name : String) (first : Json) (rest : List (String × Json)) :
    render layout depth (.object ((name, first) :: rest)) =
      ['\x7b'] ++ layout.gap (depth + 1) ++ quote name.toList ++ layout.colon ++
        render layout (depth + 1) first ++ renderMembers layout depth rest ++ ['\x7d'] := rfl

end Rendering

def compact (value : Json) : String :=
  String.ofList (render .compact 0 value)

def pretty (value : Json) : String :=
  String.ofList (render .indented 0 value)

def text? : Json → Option String
  | .string value => some value
  | _ => none

def naturalBelow? (bound : Nat) : Json → Option Nat
  | .natural value => if value < bound then some value else none
  | _ => none

/-- A line number: a natural number of at most 64 bits. -/
def lineNumber? (value : Json) : Option Nat :=
  value.naturalBelow? 0x10000000000000000

/-- The tag that a value spells: a text, or an object whose only member is the tag, without a
value. -/
def tag? : Json → Option String
  | .string value => some value
  | .object [(name, .null)] => some name
  | _ => none

def list? {α : Type} (item? : Json → Option α) : Json → Option (List α)
  | .array items => items.mapM item?
  | _ => none

/-- The fields of a record, in the order of their names, each present or absent. A name may stand
for one member only. -/
def fieldsOf? (names : List String) (members : List (String × Json)) :
    Option (List (Option Json)) :=
  names.mapM fun name =>
    match members.filter fun member => member.1 == name with
    | [] => some none
    | [(_, value)] => some (some value)
    | _ => none

/-- The fields of a record written either way. -/
def record? (names : List String) : Json → Option (List (Option Json))
  | .object members => fieldsOf? names members
  | .array items =>
    if items.length ≤ names.length then
      some (items.map some ++ List.replicate (names.length - items.length) none)
    else none
  | _ => none

def required? {α : Type} (read? : Json → Option α) (field : Option Json) : Option α :=
  field.bind read?

/-- A field that may be absent or null. -/
def optional? {α : Type} (read? : Json → Option α) : Option Json → Option (Option α)
  | none | some .null => some none
  | some value => (read? value).map some

mutual

/-- A value nests brackets at most this deep and holds nothing unusable. -/
def isWithin : Nat → Json → Bool
  | _, .unusable => false
  | 0, .array _ | 0, .object _ => false
  | depth + 1, .array items => areWithin depth items
  | depth + 1, .object members => membersWithin depth members
  | _, _ => true

def areWithin (depth : Nat) : List Json → Bool
  | [] => true
  | item :: rest => isWithin depth item && areWithin depth rest

def membersWithin (depth : Nat) : List (String × Json) → Bool
  | [] => true
  | (_, value) :: rest => isWithin depth value && membersWithin depth rest

end

end LineReview.Json
