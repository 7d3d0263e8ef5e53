import LineReview.Proofs.Yaml.Scalar
import Mathlib.Data.List.Forall2

set_option autoImplicit false

/-! Entries of mappings laid out over lines. An entry takes its own lines and no more, so that
entries under one another are read one by one, and a mapping of such entries is again the value of
an entry. -/

namespace LineReview.Yaml

/-- Lines do not belong to an entry before them: the first one is indented no deeper, and it is no
item of a sequence that the entry could have. -/
def Ends (indent : Nat) (rest : List (List Char)) : Prop :=
  ∀ line ∈ rest.head?, indentOf line ≤ indent ∧
    (indentOf line = indent → startsItem (contentOf line) = false)

/-- Lines are an entry of a mapping with some indentation: the first one starts with the key, and
from there on the value is read up to the last one, whatever does not belong to the entry comes
behind. -/
inductive IsEntry (indent : Nat) : List (List Char) → Yaml × Yaml → Prop where
  | intro {first after : List Char} {deeper : List (List Char)} {key value : Yaml}
      (indented : indentOf first = indent)
      (unmarked : ∀ mark ∈ ['-', '.'], isMark mark first = false)
      (single : startsItem (contentOf first) = false)
      (keyed : splitKey (contentOf first) = some (key, after))
      (reads : ∀ steps rest, 3 * (deeper.length + 1) ≤ steps → Ends indent rest →
        readValue steps indent after (deeper ++ rest) = some (value, rest)) :
      IsEntry indent (first :: deeper) (key, value)

variable {indent : Nat} {blocks : List (List (List Char))} {entries : List (Yaml × Yaml)}

/-- Behind an entry come others of the same mapping, or lines that are not as deep. -/
theorem ends_flatten_append (each : List.Forall₂ (IsEntry indent) blocks entries)
    {rest : List (List Char)} (outside : ∀ line ∈ rest.head?, indentOf line < indent) :
    Ends indent (blocks.flatten ++ rest) := by
  intro line first
  cases each with
  | nil =>
      have shallow := outside line first
      exact ⟨Nat.le_of_lt shallow, fun same => absurd same (Nat.ne_of_lt shallow)⟩
  | cons entry _ =>
      obtain ⟨indented, -, single, -, -⟩ := entry
      cases first
      exact ⟨Nat.le_of_eq indented, fun _ => single⟩

theorem readEntries_flatten (each : List.Forall₂ (IsEntry indent) blocks entries) {steps : Nat}
    {rest : List (List Char)} (enough : 3 * blocks.flatten.length + 1 ≤ steps)
    (outside : ∀ line ∈ rest.head?, indentOf line < indent) :
    readEntries steps indent (blocks.flatten ++ rest) = some (entries, rest) := by
  induction each generalizing steps with
  | nil =>
      obtain ⟨steps, rfl⟩ := Nat.exists_eq_add_of_le' (Nat.le_of_add_left_le enough)
      rw [List.flatten_nil, List.nil_append]
      cases rest with
      | nil => rw [readEntries]
      | cons line rest =>
          have shallow : indentOf line < indent := outside line rfl
          rw [readEntries, if_pos shallow]
  | @cons block entry blocks entries first others ih =>
      obtain ⟨indented, unmarked, single, keyed, reads⟩ := first
      rw [List.flatten_cons, List.length_append, List.length_cons] at enough
      obtain ⟨steps, rfl⟩ := Nat.exists_eq_add_of_le' (Nat.le_of_add_left_le enough)
      have value := reads steps _ (by omega) (ends_flatten_append others outside)
      have more : readEntries steps indent (blocks.flatten ++ rest) =
          some (entries, rest) := ih (by omega)
      rw [List.flatten_cons, List.append_assoc, List.cons_append, readEntries]
      simp [indented, unmarked, keyed, value, more]

/-- Entries under one another are a mapping, wherever a value indented no deeper than they are may
stand. -/
theorem readNode_flatten (each : List.Forall₂ (IsEntry indent) blocks entries)
    (filled : entries ≠ []) {steps : Nat} {least : Nat} {rest : List (List Char)}
    (enough : 3 * blocks.flatten.length + 2 ≤ steps) (deep : least ≤ indent)
    (outside : ∀ line ∈ rest.head?, indentOf line < indent) :
    readNode steps least (blocks.flatten ++ rest) = some (.mapping entries, rest) := by
  obtain ⟨steps, rfl⟩ := Nat.exists_eq_add_of_le' (Nat.le_of_add_left_le enough)
  have read : readEntries (steps + 1) indent (blocks.flatten ++ rest) = some (entries, rest) :=
    readEntries_flatten each (by omega) outside
  cases each with
  | nil => exact absurd rfl filled
  | cons first others =>
      obtain ⟨indented, unmarked, single, keyed, reads⟩ := first
      rw [List.flatten_cons, List.append_assoc, List.cons_append] at read ⊢
      have reached : ¬indent < least := Nat.not_lt.mpr deep
      rw [readNode]
      simp [indented, reached, single, keyed, read]

theorem readNode_of_outside {steps least : Nat} {rest : List (List Char)} (positive : 1 ≤ steps)
    (outside : ∀ line ∈ rest.head?, indentOf line < least) :
    readNode steps least rest = some (absent, rest) := by
  obtain ⟨steps, rfl⟩ := Nat.exists_eq_add_of_le' positive
  cases rest with
  | nil => rw [readNode]
  | cons line rest =>
      have shallow : indentOf line < least := outside line rfl
      rw [readNode, if_pos shallow]

def indented (indent : Nat) (content : List Char) : List Char :=
  List.replicate indent ' ' ++ content

theorem indentOf_indented {content : List Char} (solid : content.head? ≠ some ' ') :
    indentOf (indented indent content) = indent := by
  have none : content.takeWhile (· == ' ') = [] := by
    cases content with
    | nil => rfl
    | cons first => simpa using solid
  rw [indentOf, indented, List.takeWhile_append_of_pos (by simp), none, List.append_nil,
    List.length_replicate]

theorem contentOf_indented {content : List Char} (solid : content.head? ≠ some ' ') :
    contentOf (indented indent content) = content := by
  rw [contentOf, indented, List.dropWhile_append_of_pos (by simp), Text.dropWhile_eq_self_iff_head?]
  intro first start
  simp only [beq_eq_false_iff_ne, ne_eq]
  rintro rfl
  exact solid start

namespace Scalar

def keyLine (indent : Nat) (key : Scalar) (after : List Char) : List Char :=
  indented indent (key.written ++ ':' :: after)

theorem solid_key (key : Scalar) (after : List Char) :
    (key.written ++ ':' :: after).head? ≠ some ' ' := by
  obtain ⟨first, others, whole, gap, -⟩ := key.exists_first
  rw [whole, List.cons_append, List.head?_cons]
  rintro ⟨⟩
  cases gap

theorem isMark_keyLine (key : Scalar) (after : List Char) :
    ∀ mark ∈ ['-', '.'], isMark mark (keyLine indent key after) = false := by
  intro mark listed
  cases indent with
  | zero => exact key.isMark_key listed after
  | succ indent =>
      simp only [List.mem_cons, List.not_mem_nil, or_false] at listed
      rcases listed with rfl | rfl <;> rfl

/-- The line of a key starts an entry whose value is read from what follows the colon and the lines
under it. -/
theorem isEntry_keyLine (key : Scalar) {after : List Char} {deeper : List (List Char)}
    {value : Yaml} (gap : startsGap after = true)
    (reads : ∀ steps rest, 3 * (deeper.length + 1) ≤ steps → Ends indent rest →
      readValue steps indent after (deeper ++ rest) = some (value, rest)) :
    IsEntry indent (keyLine indent key after :: deeper) (key.value, value) :=
  .intro (indentOf_indented (key.solid_key after)) (key.isMark_keyLine after)
    (by rw [keyLine, contentOf_indented (key.solid_key after), key.startsItem_key])
    (by rw [keyLine, contentOf_indented (key.solid_key after), key.splitKey_written gap]) reads

/-- With nothing behind the colon, the value is what stands under the key. -/
theorem readValue_under {steps : Nat} {lines : List (List Char)}
    (under : ∀ line ∈ lines.head?, indentOf line = indent →
      startsItem (contentOf line) = false) :
    readValue (steps + 2) indent [] lines = readNode (steps + 1) (indent + 1) lines := by
  have remark : isRemark [] = true := rfl
  cases lines with
  | nil => simp [readValue, readNode, remark]
  | cons line rest =>
      have other : (indentOf line == indent && startsItem (contentOf line)) = false := by
        rw [Bool.and_eq_false_imp, beq_iff_eq]
        exact under line rfl
      simp [readValue, remark, other]

/-- What stands behind the colon is the value. -/
theorem readValue_inline {steps : Nat} {after : List Char} (solid : isRemark after = false)
    (rest : List (List Char)) :
    readValue (steps + 1) indent after rest =
      readInline (indent + 1) (after.dropWhile isGap) rest := by
  cases rest <;> simp [readValue, solid]

theorem isEntry_scalar (key value : Scalar) :
    IsEntry indent [keyLine indent key (' ' :: value.written)] (key.value, value.value) := by
  refine key.isEntry_keyLine rfl fun steps rest enough ends => ?_
  obtain ⟨steps, rfl⟩ : ∃ fewer, steps = fewer + 1 := ⟨steps - 1, by omega⟩
  obtain ⟨first, others, whole, gap, hash⟩ := value.exists_first
  have content : (' ' :: value.written).dropWhile isGap = value.written := by
    rw [List.dropWhile_cons_of_pos rfl, whole, List.dropWhile_cons_of_neg (by simp [gap])]
  have solid : isRemark (' ' :: value.written) = false := by
    rw [isRemark, content, whole]
    exact beq_eq_false_iff_ne.mpr hash
  have read : readInline (indent + 1) value.written rest = some (value.value, rest) :=
    value.readInline_written fun next first => Nat.lt_succ_of_le (ends next first).1
  rw [List.nil_append, readValue_inline solid, content, read]

theorem isEntry_absent (key : Scalar) :
    IsEntry indent [keyLine indent key []] (key.value, absent) := by
  refine key.isEntry_keyLine rfl fun steps rest enough ends => ?_
  obtain ⟨steps, rfl⟩ : ∃ fewer, steps = fewer + 2 := ⟨steps - 2, by omega⟩
  rw [List.nil_append, readValue_under fun line first => (ends line first).2]
  exact readNode_of_outside (Nat.le_add_left 1 steps) fun line first =>
    Nat.lt_succ_of_le (ends line first).1

/-- A key over deeper entries is an entry whose value is their mapping. -/
theorem isEntry_mapping (key : Scalar) {deeper : Nat} (deep : indent < deeper)
    (each : List.Forall₂ (IsEntry deeper) blocks entries) (filled : entries ≠ []) :
    IsEntry indent (keyLine indent key [] :: blocks.flatten) (key.value, .mapping entries) := by
  refine key.isEntry_keyLine rfl fun steps rest enough ends => ?_
  obtain ⟨steps, rfl⟩ : ∃ fewer, steps = fewer + 2 := ⟨steps - 2, by omega⟩
  have outside : ∀ line ∈ rest.head?, indentOf line < deeper :=
    fun line first => Nat.lt_of_le_of_lt (ends line first).1 deep
  have under (line : List Char) (first : line ∈ (blocks.flatten ++ rest).head?)
      (same : indentOf line = indent) :
        startsItem (contentOf line) = false := by
    cases each with
    | nil => exact absurd rfl filled
    | cons entry _ =>
        obtain ⟨indented, -, -, -, -⟩ := entry
        cases first
        omega
  rw [readValue_under under]
  exact readNode_flatten each filled (by omega) deep outside

end Scalar

end LineReview.Yaml
