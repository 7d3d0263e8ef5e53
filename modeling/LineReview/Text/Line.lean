set_option autoImplicit false

namespace LineReview.Text

/-- The blank characters: the 25 code points with the property `White_Space`. -/
def isBlank (char : Char) : Bool :=
  let code := char.toNat
  (9 ≤ code && code ≤ 13) || code == 0x20 || code == 0x85 || code == 0xA0 || code == 0x1680 ||
    (0x2000 ≤ code && code ≤ 0x200A) || code == 0x2028 || code == 0x2029 || code == 0x202F ||
    code == 0x205F || code == 0x3000

/-- Removes the longest run of dropped characters at the end. -/
def trimEnd (dropped : Char → Bool) (text : List Char) : List Char :=
  (text.reverse.dropWhile dropped).reverse

def trim (dropped : Char → Bool) (text : List Char) : List Char :=
  trimEnd dropped (text.dropWhile dropped)

def isBlankText (text : List Char) : Bool :=
  text.all isBlank

def contains (pattern : List Char) : List Char → Bool
  | [] => pattern.isEmpty
  | first :: rest => pattern.isPrefixOf (first :: rest) || contains pattern rest

/-- Replaces the leftmost occurrence of a non-empty pattern. -/
def replaceFirst (pattern replacement : List Char) : List Char → List Char
  | [] => []
  | first :: rest =>
    if pattern.isPrefixOf (first :: rest) then
      replacement ++ (first :: rest).drop pattern.length
    else first :: replaceFirst pattern replacement rest

/-- Replaces every occurrence, once the given number of characters has been passed over. -/
def replaceAfter (pattern replacement : List Char) : Nat → List Char → List Char
  | _, [] => []
  | skipped + 1, _ :: rest => replaceAfter pattern replacement skipped rest
  | 0, first :: rest =>
    if pattern.isPrefixOf (first :: rest) then
      replacement ++ replaceAfter pattern replacement (pattern.length - 1) rest
    else first :: replaceAfter pattern replacement 0 rest

/-- Replaces the occurrences of a non-empty pattern from left to right; an occurrence starts only
after the one before it has ended. -/
def replaceAll (pattern replacement text : List Char) : List Char :=
  replaceAfter pattern replacement 0 text

theorem contains_iff (pattern text : List Char) :
    contains pattern text = true ↔ pattern <:+: text := by
  induction text with
  | nil => simp [contains]
  | cons first rest ih =>
    rw [contains, Bool.or_eq_true, List.isPrefixOf_iff_prefix, ih, List.infix_cons_iff]

@[simp] theorem contains_nil (text : List Char) : contains [] text = true :=
  (contains_iff [] text).2 List.nil_infix

theorem replaceAfter_skip (pattern replacement text : List Char) (skipped : Nat) :
    replaceAfter pattern replacement skipped text =
      replaceAfter pattern replacement 0 (text.drop skipped) := by
  induction text generalizing skipped with
  | nil => cases skipped <;> simp [replaceAfter]
  | cons first rest ih =>
    cases skipped with
    | zero => rfl
    | succ skipped => rw [replaceAfter, ih, List.drop_succ_cons]

@[simp] theorem replaceAll_nil (pattern replacement : List Char) :
    replaceAll pattern replacement [] = [] := rfl

theorem replaceAll_cons (pattern replacement rest : List Char) (first : Char) :
    replaceAll pattern replacement (first :: rest) =
      if pattern.isPrefixOf (first :: rest) then
        replacement ++ replaceAll pattern replacement (rest.drop (pattern.length - 1))
      else first :: replaceAll pattern replacement rest := by
  simp only [replaceAll, replaceAfter]
  rw [replaceAfter_skip]

end LineReview.Text

namespace LineReview

/-- A line of source text, without its line feed. -/
abbrev Line := List Char

namespace Line

/-- The characters removed at both ends of a line: the blank ones other than the next-line control,
and the byte order mark. -/
def isMargin (char : Char) : Bool :=
  char == '\uFEFF' || (Text.isBlank char && char != '\u0085')

/-- The part of a line that is looked at. -/
def trimmed (line : Line) : Line :=
  Text.trim isMargin line

/-- The pieces of a text between its line feeds, the last one included even when it is empty. -/
def ofText (text : String) : List Line :=
  text.toList.splitOn '\n'

/-- The number of UTF-16 code units of a line: two for a character beyond the basic plane. -/
def units16 (line : Line) : Nat :=
  line.foldr (fun char units => (if char.toNat < 0x10000 then 1 else 2) + units) 0

theorem ofText_append (first second : String) :
    ofText (first ++ "\n" ++ second) = ofText first ++ ofText second := by
  have single : "\n".toList = ['\n'] := rfl
  simp only [ofText, String.toList_append, single, List.append_assoc, List.singleton_append]
  exact List.splitOn_append_cons_self _ _

end Line

end LineReview
