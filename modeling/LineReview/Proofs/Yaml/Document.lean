import LineReview.Proofs.Text.Line
import LineReview.Proofs.Text.Search
import LineReview.Proofs.Yaml.Entry

set_option autoImplicit false

namespace LineReview.Yaml

/-- A character may stand in a line: it is allowed, and it neither ends a line nor is a byte order
mark. -/
def IsInline (char : Char) : Prop :=
  isAllowed char = true ∧ char ∉ ['\n', '\r', '\u0085', '\u2028', '\u2029', '\uFEFF']

instance : DecidablePred IsInline :=
  fun _ => inferInstanceAs (Decidable (_ ∧ _))

structure Remark where
  chars : List Char
  within : ∀ char ∈ chars, IsInline char

/-- A line without content: spaces, and a comment or nothing behind them. -/
structure Filler where
  indent : Nat
  comment : Option Remark

/-- A key with a scalar, or with nothing. -/
structure Pair where
  key : Scalar
  value : Option Scalar

/-- A line between the others of a mapping. -/
inductive Row where
  | filler (filler : Filler)
  | pair (pair : Pair)

/-- A key over the rows of its mapping, which are indented deeper. -/
structure Section where
  key : Scalar
  depth : Nat
  rows : List Row

inductive Part where
  | row (row : Row)
  | nested (nested : Section)

/-- A document whose parts are indented by some spaces. -/
structure Document where
  margin : Nat
  parts : List Part

/-- The mapping of some entries, which is nothing where there are none. -/
def mappingOf (entries : List (Yaml × Yaml)) : Yaml :=
  if entries.isEmpty then absent else .mapping entries

def Filler.line (filler : Filler) : List Char :=
  indented filler.indent (filler.comment.elim [] fun comment => '#' :: comment.chars)

namespace Pair

def line (indent : Nat) (pair : Pair) : List Char :=
  pair.key.keyLine indent (pair.value.elim [] fun value => ' ' :: value.written)

def entry (pair : Pair) : Yaml × Yaml :=
  (pair.key.value, pair.value.elim absent Scalar.value)

end Pair

namespace Row

def line (indent : Nat) : Row → List Char
  | .filler void => void.line
  | .pair entry => entry.line indent

def pair? : Row → Option Pair
  | .filler _ => none
  | .pair entry => some entry

end Row

namespace Section

def pairs (nested : Section) : List Pair :=
  nested.rows.filterMap Row.pair?

/-- The spaces before the rows: at least one more than before the key. -/
def margin (indent : Nat) (nested : Section) : Nat :=
  indent + 1 + nested.depth

def lines (indent : Nat) (nested : Section) : List (List Char) :=
  nested.key.keyLine indent [] :: nested.rows.map (Row.line (nested.margin indent))

def entry (nested : Section) : Yaml × Yaml :=
  (nested.key.value, mappingOf (nested.pairs.map Pair.entry))

end Section

namespace Part

def lines (indent : Nat) : Part → List (List Char)
  | .row single => [single.line indent]
  | .nested inner => inner.lines indent

def pair? : Part → Option Pair
  | .row single => single.pair?
  | .nested _ => none

def section? : Part → Option Section
  | .row _ => none
  | .nested inner => some inner

def entry? : Part → Option (Yaml × Yaml)
  | .row single => single.pair?.map Pair.entry
  | .nested inner => some inner.entry

end Part

namespace Document

def lines (document : Document) : List (List Char) :=
  document.parts.flatMap (Part.lines document.margin)

def text (document : Document) : String :=
  Line.join document.lines

def entries (document : Document) : List (Yaml × Yaml) :=
  document.parts.filterMap Part.entry?

def pairs (document : Document) : List Pair :=
  document.parts.filterMap Part.pair?

def sections (document : Document) : List Section :=
  document.parts.filterMap Part.section?

end Document

/-- Lines are entries of a mapping, with lines without content anywhere between them. -/
def AreEntries (indent : Nat) (lines : List (List Char)) (entries : List (Yaml × Yaml)) : Prop :=
  ∃ blocks, lines.filter (!isVoid ·) = blocks.flatten ∧
    List.Forall₂ (IsEntry indent) blocks entries

namespace AreEntries

variable {indent : Nat}

theorem append {lines others : List (List Char)} {entries more : List (Yaml × Yaml)}
    (first : AreEntries indent lines entries) (second : AreEntries indent others more) :
    AreEntries indent (lines ++ others) (entries ++ more) := by
  obtain ⟨blocks, content, each⟩ := first
  obtain ⟨rest, after, every⟩ := second
  exact ⟨blocks ++ rest, by rw [List.filter_append, content, after, List.flatten_append],
    List.rel_append each every⟩

/-- A line without content adds no entry. -/
theorem void {line : List Char} (void : isVoid line = true) : AreEntries indent [line] [] :=
  ⟨[], by simp [void], .nil⟩

/-- The lines of an entry with others without content between them are the entry. -/
theorem single {first : List Char} {deeper lines : List (List Char)} {entry : Yaml × Yaml}
    (solid : isVoid first = false) (content : lines.filter (!isVoid ·) = deeper)
    (is : IsEntry indent (first :: deeper) entry) : AreEntries indent (first :: lines) [entry] :=
  ⟨[first :: deeper], by simp [solid, content], .cons is .nil⟩

end AreEntries

theorem isVoid_indented {indent : Nat} {content : List Char} (solid : content.head? ≠ some ' ') :
    isVoid (indented indent content) = (content.head?.elim true (· == '#')) := by
  rw [isVoid, contentOf_indented solid]
  cases content <;> rfl

theorem Filler.isVoid_line (filler : Filler) : isVoid filler.line = true := by
  obtain ⟨indent, comment⟩ := filler
  cases comment with
  | none => exact isVoid_indented (by simp)
  | some comment => exact isVoid_indented (by simp)

theorem Scalar.isVoid_keyLine (key : Scalar) (indent : Nat) (after : List Char) :
    isVoid (key.keyLine indent after) = false := by
  obtain ⟨first, others, whole, -, hash⟩ := key.exists_first
  rw [keyLine, isVoid_indented (key.solid_key after), whole]
  exact beq_eq_false_iff_ne.mpr hash

theorem Pair.isEntry_line (pair : Pair) (indent : Nat) :
    IsEntry indent [pair.line indent] pair.entry := by
  obtain ⟨key, value⟩ := pair
  cases value with
  | none => exact key.isEntry_absent
  | some value => exact key.isEntry_scalar value

theorem Pair.areEntries_line (pair : Pair) (indent : Nat) :
    AreEntries indent [pair.line indent] [pair.entry] :=
  .single (pair.key.isVoid_keyLine indent _) rfl (pair.isEntry_line indent)

theorem Row.areEntries_line (row : Row) (indent : Nat) :
    AreEntries indent [row.line indent] (row.pair?.map Pair.entry).toList := by
  cases row with
  | filler void => exact .void void.isVoid_line
  | pair entry => exact entry.areEntries_line indent

/-- Rows are the entries of their pairs. -/
theorem Row.areEntries_lines (rows : List Row) (indent : Nat) :
    AreEntries indent (rows.map (Row.line indent)) ((rows.filterMap Row.pair?).map Pair.entry) := by
  induction rows with
  | nil => exact ⟨[], rfl, .nil⟩
  | cons row rows ih =>
      have first := (row.areEntries_line indent).append ih
      cases row <;> exact first

theorem Section.areEntries_lines (nested : Section) (indent : Nat) :
    AreEntries indent (nested.lines indent) [nested.entry] := by
  obtain ⟨blocks, content, each⟩ := Row.areEntries_lines nested.rows (nested.margin indent)
  have deep : indent < nested.margin indent := by
    rw [margin]
    omega
  refine .single (nested.key.isVoid_keyLine indent []) content ?_
  by_cases empty : nested.pairs = []
  · have none : blocks = [] := by
      rw [← pairs, empty] at each
      exact List.forall₂_nil_right_iff.mp each
    rw [none, entry, empty]
    exact nested.key.isEntry_absent
  · have filled : nested.pairs.map Pair.entry ≠ [] := mt List.map_eq_nil_iff.mp empty
    rw [entry, mappingOf, if_neg (by simpa using filled)]
    exact nested.key.isEntry_mapping deep each filled

theorem Part.areEntries_lines (part : Part) (indent : Nat) :
    AreEntries indent (part.lines indent) part.entry?.toList := by
  cases part with
  | row single => exact single.areEntries_line indent
  | nested inner => exact inner.areEntries_lines indent

theorem Document.areEntries_lines (document : Document) :
    AreEntries document.margin document.lines document.entries := by
  obtain ⟨margin, parts⟩ := document
  unfold lines entries
  dsimp only
  induction parts with
  | nil => exact ⟨[], rfl, .nil⟩
  | cons part parts ih =>
      have first := (part.areEntries_lines margin).append ih
      rw [List.flatMap_cons, List.filterMap_cons]
      cases found : part.entry? <;> simpa [found] using first

section Join

variable {lines : List (List Char)}

end Join

namespace Document

end Document

end LineReview.Yaml
