import LineReview.Proofs.Json.Numeral
import LineReview.Proofs.Json.Text

set_option autoImplicit false

/-! Values of JSON read back. A layout puts nothing but blanks between the tokens of a document, so
a value whose numbers are within bounds is read back from either layout, and what follows it is left
alone. -/

namespace LineReview.Json

/-- All numbers of the value are within bounds and written as numerals, and nothing in it is
unusable. -/
inductive Plain : Json → Prop where
  | null : Plain .null
  | bool (value : Bool) : Plain (.bool value)
  | natural {value : Nat} (bounded : value < Numeral.bound) : Plain (.natural value)
  | number {numeral : Numeral} (formed : numeral.WellFormed)
      (denoted : numeral.toJson = .number (String.ofList numeral.written)) :
      Plain (.number (String.ofList numeral.written))
  | string (value : String) : Plain (.string value)
  | array {items : List Json} (each : ∀ item ∈ items, Plain item) : Plain (.array items)
  | object {members : List (String × Json)} (each : ∀ member ∈ members, Plain member.2) :
      Plain (.object members)

/-- A layout that puts nothing but blanks between the tokens of a document. -/
structure Layout.Spaced (layout : Layout) : Prop where
  gap : ∀ depth, ∀ char ∈ layout.gap depth, isSpace char = true
  colon : ∃ blanks, layout.colon = ':' :: blanks ∧ ∀ char ∈ blanks, isSpace char = true

theorem Layout.compact_spaced : Layout.compact.Spaced where
  gap := by
    intro depth char member
    cases member
  colon := ⟨[], rfl, fun _ member => by cases member⟩

theorem Layout.indented_spaced : Layout.indented.Spaced where
  gap := by
    intro depth char member
    simp only [Layout.indented, List.mem_cons, List.mem_replicate] at member
    rcases member with rfl | ⟨-, rfl⟩ <;> rfl
  colon := ⟨[' '], rfl, fun _ member => by rw [List.mem_singleton.mp member]; rfl⟩

/-- A value that opens neither a text nor an array nor an object is a word or a numeral. -/
theorem readValue_scalar {first : Char} (solid : isSpace first = false) (noQuote : first ≠ '"')
    (noBracket : first ≠ '[') (noBrace : first ≠ '\x7b') (steps : Nat) (rest : List Char) :
    readValue (steps + 1) (first :: rest) = readScalar (first :: rest) := by
  rw [readValue, skip_cons solid]
  split
  · rename_i same
    cases same
    exact absurd rfl noQuote
  · rename_i same
    cases same
    exact absurd rfl noBracket
  · rename_i same
    cases same
    exact absurd rfl noBrace
  · rfl

/-- An array that does not close at once is read item by item. -/
theorem readValue_array {text rest : List Char} {first : Char} (opened : skip text = first :: rest)
    (more : first ≠ ']') (steps : Nat) :
    readValue (steps + 1) ('[' :: text) =
      (readItems steps text).map fun (items, after) => (.array items, after) := by
  rw [readValue, skip_cons rfl]
  simp only [opened]
  split
  · rename_i same
    cases same
    exact absurd rfl more
  · rfl

/-- An object that does not close at once is read member by member. -/
theorem readValue_object {text rest : List Char} {first : Char} (opened : skip text = first :: rest)
    (more : first ≠ '\x7d') (steps : Nat) :
    readValue (steps + 1) ('\x7b' :: text) =
      (readMembers steps text).map fun (members, after) => (objectOf members, after) := by
  rw [readValue, skip_cons rfl]
  simp only [opened]
  split
  · rename_i same
    cases same
    exact absurd rfl more
  · rfl

/-- A blank, a comma or a closing bracket ends a numeral. -/
theorem endsNumeral_cons {first : Char}
    (mark : isSpace first = true ∨ first ∈ [',', ']', '\x7d']) (rest : List Char) :
    EndsNumeral (first :: rest) := by
  intro char member
  cases member
  have listed : first ∈ [' ', '\n', '\t', '\r', ',', ']', '\x7d'] := by
    simpa [isSpace, or_assoc] using mark
  have every : [' ', '\n', '\t', '\r', ',', ']', '\x7d'].all
      (fun char => !char.isDigit && char != '.' && char != 'e' && char != 'E') = true := by decide
  have ends := List.all_eq_true.mp every first listed
  simpa [and_assoc] using ends

variable {layout : Layout}

theorem endsNumeral_gap (spaced : layout.Spaced) (depth : Nat) {closing : Char}
    (mark : closing ∈ [',', ']', '\x7d']) (rest : List Char) :
    EndsNumeral (layout.gap depth ++ closing :: rest) := by
  cases blanks : layout.gap depth with
  | nil => exact endsNumeral_cons (Or.inr mark) rest
  | cons blank others =>
      have space : isSpace blank = true :=
        spaced.gap depth blank (by rw [blanks]; exact List.mem_cons_self)
      exact endsNumeral_cons (Or.inl space) _

theorem endsNumeral_items (spaced : layout.Spaced) (depth : Nat) (items : List Json)
    (rest : List Char) :
    EndsNumeral (renderItems layout depth items ++ ']' :: rest) := by
  cases items with
  | nil =>
      rw [renderItems]
      exact endsNumeral_gap spaced depth (by decide) rest
  | cons item others =>
      rw [renderItems]
      exact endsNumeral_cons (Or.inr (by decide)) _

theorem endsNumeral_members (spaced : layout.Spaced) (depth : Nat) (members : List (String × Json))
    (rest : List Char) : EndsNumeral (renderMembers layout depth members ++ '\x7d' :: rest) := by
  cases members with
  | nil =>
      rw [renderMembers]
      exact endsNumeral_gap spaced depth (by decide) rest
  | cons member others =>
      rw [renderMembers]
      exact endsNumeral_cons (Or.inr (by decide)) _

/-- Every written form of the value is read back by as many steps as it has characters. -/
def ReadsBack (layout : Layout) (value : Json) : Prop :=
  ∀ depth steps rest, (render layout depth value).length ≤ steps → EndsNumeral rest →
    readValue steps (render layout depth value ++ rest) = some (value, rest)

theorem readItems_render (spaced : layout.Spaced) {first : Json} {others : List Json}
    (each : ∀ item ∈ first :: others, ReadsBack layout item) {depth steps : Nat}
    (after : List Char)
    (enough :
      (render layout (depth + 1) first).length + (renderItems layout depth others).length < steps) :
    readItems steps (layout.gap (depth + 1) ++ (render layout (depth + 1) first ++
      (renderItems layout depth others ++ ']' :: after))) = some (first :: others, after) := by
  induction others generalizing first steps with
  | nil =>
      cases steps with
      | zero => omega
      | succ steps =>
          have read := each first List.mem_cons_self (depth + 1) steps
            (renderItems layout depth [] ++ ']' :: after) (by omega)
              (endsNumeral_items spaced depth [] after)
          have closed : skip (renderItems layout depth [] ++ ']' :: after) = ']' :: after := by
            rw [renderItems, skip_append (spaced.gap depth), skip_cons rfl]
          simp only [readItems, readValue_blanks (spaced.gap _), read, closed]
  | cons item others ih =>
      cases steps with
      | zero => omega
      | succ steps =>
          have size : (renderItems layout depth (item :: others)).length =
              1 + (layout.gap (depth + 1)).length + (render layout (depth + 1) item).length +
                (renderItems layout depth others).length := by
            simp only [renderItems, List.length_append, List.length_cons, List.length_nil]
          have read := each first List.mem_cons_self (depth + 1) steps
            (renderItems layout depth (item :: others) ++ ']' :: after) (by omega)
            (endsNumeral_items spaced depth (item :: others) after)
          have next : skip (renderItems layout depth (item :: others) ++ ']' :: after) =
              ',' :: (layout.gap (depth + 1) ++ (render layout (depth + 1) item ++
                (renderItems layout depth others ++ ']' :: after))) := by
            rw [renderItems]
            simp only [List.append_assoc, List.singleton_append]
            exact skip_cons rfl _
          have rest :=
            @ih item (fun other member => each other (List.mem_cons_of_mem _ member)) steps
            (by omega)
          simp only [readItems, readValue_blanks (spaced.gap _), read, next, rest, Option.map_some]

/-- What a reader finds of the members of an object whose names are all texts. -/
def named (members : List (String × Json)) : List (Option String × Json) :=
  members.map fun member => (some member.1, member.2)

theorem objectOf_named (members : List (String × Json)) :
    objectOf (named members) = .object members := by
  have every : (named members).mapM (fun found => found.1.map fun name => (name, found.2)) =
      some members := by
    induction members with
    | nil => rfl
    | cons member others ih =>
        rw [named, List.map_cons, List.mapM_cons, ← named, ih]
        rfl
  unfold objectOf
  rw [every]

theorem quote_append (text rest : List Char) :
    quote text ++ rest = '"' :: (text.flatMap escape ++ '"' :: rest) := by
  simp [quote]

/-- What is made of the text after a member: it ends the object, or holds further members. -/
def readOn (steps : Nat) (member : String × Json) (text : List Char) :
    Option (List (Option String × Json) × List Char) :=
  match text with
  | '\x7d' :: after => some ([(some member.1, member.2)], after)
  | ',' :: more =>
    (readMembers steps more).map fun (members, after) =>
      ((some member.1, member.2) :: members, after)
  | _ => none

/-- A member is read with its name and its value; what follows it decides whether it is the last
one. -/
theorem readMembers_member (spaced : layout.Spaced) {member : String × Json}
    (back : ReadsBack layout member.2) {depth steps : Nat} {rest : List Char}
    (enough : (render layout (depth + 1) member.2).length ≤ steps) (ends : EndsNumeral rest) :
    readMembers (steps + 1) (layout.gap (depth + 1) ++ (quote member.1.toList ++ (layout.colon ++
      (render layout (depth + 1) member.2 ++ rest)))) =
      readOn steps member (skip rest) := by
  obtain ⟨blanks, colon, spaces⟩ := spaced.colon
  have colonSkipped : ∀ text, skip (layout.colon ++ text) = ':' :: (blanks ++ text) := by
    intro text
    rw [colon, List.cons_append, skip_cons rfl]
  have read := back (depth + 1) steps rest enough ends
  unfold readMembers
  rw [skip_append (spaced.gap _), quote_append, skip_cons rfl]
  simp only [readText_quoted, colonSkipped, readValue_blanks spaces, read]
  rfl

theorem readMembers_render (spaced : layout.Spaced) {first : String × Json}
    {others : List (String × Json)}
    (each : ∀ member ∈ first :: others, ReadsBack layout member.2) {depth steps : Nat}
    (after : List Char)
    (enough : (render layout (depth + 1) first.2).length +
      (renderMembers layout depth others).length < steps) :
    readMembers steps (layout.gap (depth + 1) ++ (quote first.1.toList ++ (layout.colon ++
      (render layout (depth + 1) first.2 ++
        (renderMembers layout depth others ++ '\x7d' :: after))))) =
      some (named (first :: others), after) := by
  induction others generalizing first steps with
  | nil =>
      cases steps with
      | zero => omega
      | succ steps =>
          have closed : skip (renderMembers layout depth [] ++ '\x7d' :: after) =
              '\x7d' :: after := by
            rw [renderMembers, skip_append (spaced.gap depth), skip_cons rfl]
          rw [readMembers_member spaced (each first List.mem_cons_self) (by omega)
            (endsNumeral_members spaced depth [] after), closed]
          rfl
  | cons member others ih =>
      cases steps with
      | zero => omega
      | succ steps =>
          have size : (renderMembers layout depth (member :: others)).length =
              1 + (layout.gap (depth + 1)).length + (quote member.1.toList).length +
                layout.colon.length +
                (render layout (depth + 1) member.2).length +
                  (renderMembers layout depth others).length := by
            simp only [renderMembers, List.length_append, List.length_cons, List.length_nil]
          have next : skip (renderMembers layout depth (member :: others) ++ '\x7d' :: after) =
              ',' :: (layout.gap (depth + 1) ++ (quote member.1.toList ++ (layout.colon ++
                (render layout (depth + 1) member.2 ++
                  (renderMembers layout depth others ++ '\x7d' :: after))))) := by
            rw [renderMembers]
            simp only [List.append_assoc, List.singleton_append]
            exact skip_cons rfl _
          have rest :=
            @ih member (fun other listed => each other (List.mem_cons_of_mem _ listed)) steps
            (by omega)
          rw [readMembers_member spaced (each first List.mem_cons_self) (by omega)
            (endsNumeral_members spaced depth (member :: others) after), next]
          simp only [readOn, rest, Option.map_some]
          rfl

theorem readsBack_null (layout : Layout) : ReadsBack layout .null := by
  intro depth steps rest enough ends
  cases steps with
  | zero => cases enough
  | succ steps =>
      exact readValue_scalar rfl (by decide) (by decide) (by decide) steps _

theorem readsBack_bool (layout : Layout) (value : Bool) : ReadsBack layout (.bool value) := by
  intro depth steps rest enough ends
  cases value <;> cases steps with
  | zero => cases enough
  | succ steps =>
      exact readValue_scalar rfl (by decide) (by decide) (by decide) steps _

/-- A numeral starts with a character that opens nothing else. -/
theorem exists_first_written {numeral : Numeral} (formed : numeral.WellFormed) :
    ∃ first others, numeral.written = first :: others ∧ isSpace first = false ∧
      first ∉ ['"', '[', ']', '\x7b'] := by
  obtain ⟨first, others, written, start⟩ := formed.exists_first
  have listed : ∀ mark ∈ [' ', '\n', '\t', '\r', '"', '[', ']', '\x7b'], first ≠ mark := by
    rintro mark listed rfl
    have every : [' ', '\n', '\t', '\r', '"', '[', ']', '\x7b'].all
        (fun char => char != '-' && !char.isDigit) = true := by decide
    have other : first ≠ '-' ∧ first.isDigit = false := by
      simpa using List.all_eq_true.mp every first listed
    rw [other.2] at start
    exact start.elim other.1 nofun
  refine ⟨first, others, written, ?_, ?_⟩
  · simp [isSpace, listed]
  · intro opening
    exact listed first (List.mem_append_right [' ', '\n', '\t', '\r'] opening) rfl

/-- A value that is written as a numeral which denotes it is read back. -/
theorem readsBack_of_numeral {layout : Layout} {value : Json} {numeral : Numeral}
    (formed : numeral.WellFormed) (written : ∀ depth, render layout depth value = numeral.written)
    (denoted : numeral.toJson = value) : ReadsBack layout value := by
  intro depth steps rest enough ends
  obtain ⟨first, others, opened, solid, other⟩ := exists_first_written formed
  simp only [List.mem_cons, List.not_mem_nil, or_false, not_or] at other
  rw [written] at enough ⊢
  cases steps with
  | zero =>
      rw [opened] at enough
      cases enough
  | succ steps =>
      have scalar : readValue (steps + 1) (numeral.written ++ rest) =
          readScalar (numeral.written ++ rest) := by
        rw [opened]
        exact readValue_scalar solid other.1 other.2.1 other.2.2.2 steps _
      rw [scalar, readScalar_written formed ends, denoted]

theorem readsBack_natural (layout : Layout) {value : Nat} (bounded : value < Numeral.bound) :
    ReadsBack layout (.natural value) := by
  refine readsBack_of_numeral (Numeral.wellFormed_ofNatural value) ?_
    (Numeral.toJson_ofNatural bounded)
  intro depth
  rw [render_natural, Numeral.written_ofNatural]

theorem readsBack_number (layout : Layout) {numeral : Numeral} (formed : numeral.WellFormed)
    (denoted : numeral.toJson = .number (String.ofList numeral.written)) :
    ReadsBack layout (.number (String.ofList numeral.written)) := by
  refine readsBack_of_numeral formed ?_ denoted
  intro depth
  rw [render_number, String.toList_ofList]

theorem readsBack_string (layout : Layout) (value : String) : ReadsBack layout (.string value) := by
  intro depth steps rest enough ends
  rw [render_string] at enough ⊢
  cases steps with
  | zero => cases enough
  | succ steps =>
      rw [quote_append, readValue, skip_cons rfl]
      simp only [readText_quoted]
      rfl

namespace Plain

/-- No value starts with a blank or a closing bracket. -/
theorem exists_first {value : Json} (plain : value.Plain) (layout : Layout) (depth : Nat) :
    ∃ first rest, render layout depth value = first :: rest ∧ isSpace first = false ∧
      first ≠ ']' := by
  cases plain with
  | null => exact ⟨'n', _, rfl, rfl, by decide⟩
  | bool value => cases value with
      | true => exact ⟨'t', _, rfl, rfl, by decide⟩
      | false => exact ⟨'f', _, rfl, rfl, by decide⟩
  | @natural value bounded =>
      obtain ⟨first, others, written, solid, other⟩ :=
        exists_first_written (Numeral.wellFormed_ofNatural value)
      refine ⟨first, others, ?_, solid, ?_⟩
      · rw [render_natural, ← Numeral.written_ofNatural, written]
      · rintro rfl
        exact other (by decide)
  | @number numeral formed denoted =>
      obtain ⟨first, others, written, solid, other⟩ := exists_first_written formed
      refine ⟨first, others, ?_, solid, ?_⟩
      · rw [render_number, String.toList_ofList, written]
      · rintro rfl
        exact other (by decide)
  | string value => exact ⟨'"', _, rfl, rfl, by decide⟩
  | @array items each =>
      cases items with
      | nil => exact ⟨'[', _, rfl, rfl, by decide⟩
      | cons item others => exact ⟨'[', _, rfl, rfl, by decide⟩
  | @object members each =>
      cases members with
      | nil => exact ⟨'\x7b', _, rfl, rfl, by decide⟩
      | cons member others => exact ⟨'\x7b', _, rfl, rfl, by decide⟩

/-- A plain value is read back from its written form, whatever follows it. -/
theorem readsBack {layout : Layout} (spaced : layout.Spaced) {value : Json} (plain : value.Plain) :
    ReadsBack layout value := by
  -- One step for every character written is enough: what stands inside is shorter by a bracket at
  -- least.
  induction plain with
  | null => exact readsBack_null layout
  | bool value => exact readsBack_bool layout value
  | natural bounded => exact readsBack_natural layout bounded
  | number formed denoted => exact readsBack_number layout formed denoted
  | string value => exact readsBack_string layout value
  | @array items each ih =>
      intro depth steps rest enough ends
      cases items with
      | nil =>
          cases steps with
          | zero => cases enough
          | succ steps => rfl
      | cons item others =>
          rw [render_array_cons] at enough ⊢
          simp only [List.length_append, List.length_cons, List.length_nil] at enough
          cases steps with
          | zero => omega
          | succ steps =>
              have items := readItems_render spaced ih rest (show
                (render layout (depth + 1) item).length + (renderItems layout depth others).length <
                  steps by omega)
              obtain ⟨first, more, written, solid, noBracket⟩ :=
                (each item List.mem_cons_self).exists_first layout (depth + 1)
              have opened : skip (layout.gap (depth + 1) ++ (render layout (depth + 1) item ++
                  (renderItems layout depth others ++ ']' :: rest))) =
                  first :: (more ++ (renderItems layout depth others ++ ']' :: rest)) := by
                rw [skip_append (spaced.gap _), written, List.cons_append, skip_cons solid]
              simp only [List.append_assoc, List.cons_append, List.nil_append]
              rw [readValue_array opened noBracket, items]
              rfl
  | @object members each ih =>
      intro depth steps rest enough ends
      cases members with
      | nil =>
          cases steps with
          | zero => cases enough
          | succ steps => rfl
      | cons member others =>
          obtain ⟨name, value⟩ := member
          rw [render_object_cons] at enough ⊢
          simp only [List.length_append, List.length_cons, List.length_nil] at enough
          cases steps with
          | zero => omega
          | succ steps =>
              have members := readMembers_render spaced ih rest (show
                (render layout (depth + 1) value).length +
                  (renderMembers layout depth others).length < steps by
                  omega)
              obtain ⟨more, opened⟩ : ∃ more,
                  skip (layout.gap (depth + 1) ++ (quote name.toList ++
                    (layout.colon ++ (render layout (depth + 1) value ++
                      (renderMembers layout depth others ++ '\x7d' :: rest))))) = '"' :: more :=
                ⟨_, by rw [skip_append (spaced.gap _), quote_append, skip_cons rfl]⟩
              simp only [List.append_assoc, List.cons_append, List.nil_append]
              rw [readValue_object opened (by decide), members]
              exact congrArg (fun object => some (object, rest)) (objectOf_named _)

end Plain

/-- A plain value is the value of the document that it is written as, in either layout. -/
theorem read?_render {layout : Layout} (spaced : layout.Spaced) {value : Json}
    (plain : value.Plain) :
    read? (String.ofList (render layout 0 value)) = some value := by
  have nothing : EndsNumeral [] := by
    intro first member
    cases member
  have back := plain.readsBack spaced 0 ((render layout 0 value).length + 1) [] (by omega) nothing
  rw [List.append_nil] at back
  rw [read?, String.toList_ofList, back]
  rfl

theorem read?_pretty {value : Json} (plain : value.Plain) : read? value.pretty = some value :=
  read?_render Layout.indented_spaced plain

theorem read?_compact {value : Json} (plain : value.Plain) : read? value.compact = some value :=
  read?_render Layout.compact_spaced plain

end LineReview.Json
