import LineReview.Proofs.Text.Trim
import LineReview.Yaml.Block
import LineReview.Yaml.Basic

set_option autoImplicit false

namespace LineReview.Yaml

def IsPrintable (char : Char) : Prop :=
  0x20 ≤ char.toNat ∧ char.toNat ≤ 0x7E

instance : DecidablePred IsPrintable :=
  fun char => inferInstanceAs (Decidable (0x20 ≤ char.toNat ∧ char.toNat ≤ 0x7E))

/-- A text of printable characters. -/
structure Printable where
  chars : List Char
  within : ∀ char ∈ chars, IsPrintable char

def Printable.text (printable : Printable) : String :=
  String.ofList printable.chars

/-- The characters that cannot start a scalar without quotes. -/
def indicators : List Char :=
  [' ', ',', '[', ']', '\x7b', '\x7d', '#', '&', '*', '!', '|', '>', '\'', '"', '%', '@', '\x60']

/-- A printable text that needs no quotes: nothing in it opens a value or a comment or divides
documents, and neither its start nor its end is taken for something else. -/
structure BareText extends Printable where
  filled : chars ≠ []
  first : ∀ char ∈ chars.head?, char ∉ indicators
  second : ∀ char ∈ chars.head?, char ∈ ['-', '?', ':'] →
    ∃ next ∈ chars.tail.head?, next ≠ ' '
  last : ∀ char ∈ chars.getLast?, char ∉ [' ', ':']
  colon : ¬[':', ' '] <:+: chars
  hash : ¬[' ', '#'] <:+: chars
  mark : ∀ mark ∈ ['-', '.'], ¬[mark, mark, mark, ' '] <+: chars

/-- A scalar on one line. -/
inductive Scalar where
  | bare (text : BareText)
  | single (text : Printable)
  | double (text : Printable)

namespace Scalar

def text : Scalar → String
  | .bare unquoted => unquoted.text
  | .single printable | .double printable => printable.text

def value : Scalar → Yaml
  | .bare unquoted => .plain unquoted.text
  | .single printable | .double printable => .quoted printable.text

/-- A text with a guard before each of its special characters. -/
def guarded (guard : Char) (special chars : List Char) : List Char :=
  chars.flatMap fun char => if char ∈ special then [guard, char] else [char]

/-- A scalar as it is written. Between single quotes a single quote is written twice, and between
double quotes a backslash guards a double quote and a backslash. -/
def written : Scalar → List Char
  | .bare text => text.chars
  | .single text => '\'' :: (guarded '\'' ['\''] text.chars ++ ['\''])
  | .double text => '"' :: (guarded '\\' ['"', '\\'] text.chars ++ ['"'])

end Scalar

theorem Printable.feed_not_mem (text : Printable) : '\n' ∉ text.chars := by
  intro listed
  exact absurd (text.within _ listed).1 (by decide)

theorem Printable.tab_not_mem (text : Printable) : '\t' ∉ text.chars := by
  intro listed
  exact absurd (text.within _ listed).1 (by decide)

theorem guarded_cons (guard char : Char) (special chars : List Char) :
    Scalar.guarded guard special (char :: chars) =
      (if char ∈ special then [guard, char] else [char]) ++ Scalar.guarded guard special chars :=
  List.flatMap_cons

theorem readSingle_guarded {chars : List Char} (line : '\n' ∉ chars) (rest : List Char)
    (closed : rest.head? ≠ some '\'') :
    readSingle (Scalar.guarded '\'' ['\''] chars ++ '\'' :: rest) = some (chars, rest) := by
  induction chars with
  | nil =>
      rw [Scalar.guarded, List.flatMap_nil, List.nil_append, readSingle.eq_def]
      split
      · contradiction
      · rename_i same
        simp only [List.cons.injEq, true_and] at same
        rw [same] at closed
        exact absurd rfl closed
      · rename_i same
        cases same
        rfl
  | cons char chars ih =>
      obtain ⟨feed, line⟩ := not_or.mp (mt List.mem_cons.mpr line)
      have read := ih line
      rw [guarded_cons, List.append_assoc]
      by_cases quote : char = '\''
      · rw [if_pos (List.mem_singleton.mpr quote), quote, List.cons_append, List.singleton_append,
          readSingle, read]
        rfl
      · rw [if_neg (mt List.mem_singleton.mp quote), List.singleton_append, readSingle, read]
        · simp [quote, Ne.symm feed]
        · intro _ same
          exact absurd same quote

theorem readDouble_guarded {chars : List Char} (line : '\n' ∉ chars) (rest : List Char) :
    readDouble .none (Scalar.guarded '\\' ['"', '\\'] chars ++ '"' :: rest) =
      some (chars, rest) := by
  induction chars with
  | nil => rfl
  | cons char chars ih =>
      obtain ⟨feed, line⟩ := not_or.mp (mt List.mem_cons.mpr line)
      have read := ih line
      rw [guarded_cons, List.append_assoc]
      by_cases special : char ∈ ['"', '\\']
      · rw [if_pos special]
        simp only [List.mem_cons, List.not_mem_nil, or_false] at special
        rcases special with rfl | rfl <;> simp [readDouble, escaped?, read]
      · rw [if_neg special]
        simp only [List.mem_cons, List.not_mem_nil, or_false, not_or] at special
        simp [readDouble, special, Ne.symm feed, read]

/-- Nothing in a text opens a value or a comment. -/
structure IsUnbroken (chars : List Char) : Prop where
  tab : '\t' ∉ chars
  feed : '\n' ∉ chars
  last : chars.getLast? ≠ some ':'
  colon : ¬[':', ' '] <:+: chars
  hash : ¬[' ', '#'] <:+: chars

namespace IsUnbroken

variable {chars : List Char} {char : Char}

theorem tail (unbroken : IsUnbroken (char :: chars)) : IsUnbroken chars where
  tab := fun listed => unbroken.tab (List.mem_cons_of_mem _ listed)
  feed := fun listed => unbroken.feed (List.mem_cons_of_mem _ listed)
  last := by
    cases chars with
    | nil => simp
    | cons => simpa using unbroken.last
  colon := fun part => unbroken.colon (part.trans (List.suffix_cons char chars).isInfix)
  hash := fun part => unbroken.hash (part.trans (List.suffix_cons char chars).isInfix)

theorem isGap_head (unbroken : IsUnbroken (char :: chars)) : isGap char = (char == ' ') := by
  have tab : char ≠ '\t' := by
    rintro rfl
    exact unbroken.tab List.mem_cons_self
  simp [isGap, tab]

theorem startsGap_after_colon (unbroken : IsUnbroken (':' :: chars)) (tail : List Char) :
    startsGap (chars ++ tail) = false := by
  cases chars with
  | nil => exact absurd rfl unbroken.last
  | cons next chars =>
      have space : next ≠ ' ' := by
        rintro rfl
        exact unbroken.colon (List.prefix_append [':', ' '] chars).isInfix
      have feed : next ≠ '\n' := by
        rintro rfl
        exact unbroken.tail.feed List.mem_cons_self
      simp [startsGap, unbroken.tail.isGap_head, space, feed]

theorem head?_after_gap (unbroken : IsUnbroken (char :: chars)) (gap : isGap char = true) :
    chars.head? ≠ some '#' := by
  intro same
  obtain ⟨later, rfl⟩ := List.head?_eq_some_iff.mp same
  rw [unbroken.isGap_head, beq_iff_eq] at gap
  cases gap
  exact unbroken.hash (List.prefix_append [' ', '#'] later).isInfix

/-- A text in which nothing opens a value or a comment is passed over in the search for the colon of
a key. -/
theorem splitAtColon_append (unbroken : IsUnbroken chars) (tail : List Char) (afterGap : Bool)
    (start : afterGap = true → chars.head? ≠ some '#') :
    ∃ flag, splitAtColon afterGap (chars ++ tail) =
      (splitAtColon flag tail).map fun (before, after) => (chars ++ before, after) := by
  induction chars generalizing afterGap with
  | nil => exact ⟨afterGap, by simp⟩
  | cons char chars ih =>
      have value : (char == ':' && startsGap (chars ++ tail)) = false := by
        rw [Bool.and_eq_false_imp, beq_iff_eq]
        rintro rfl
        exact unbroken.startsGap_after_colon tail
      have remark : (char == '#' && afterGap) = false := by
        rw [Bool.and_eq_false_imp, beq_iff_eq]
        rintro rfl
        exact Bool.eq_false_iff.mpr fun flag => start flag rfl
      obtain ⟨flag, passed⟩ := ih unbroken.tail (isGap char) unbroken.head?_after_gap
      refine ⟨flag, ?_⟩
      rw [List.cons_append, splitAtColon, value, remark, passed]
      simp [Function.comp_def]

theorem plainOnLine_eq (unbroken : IsUnbroken chars) (afterGap : Bool)
    (start : afterGap = true → chars.head? ≠ some '#') :
    plainOnLine afterGap chars = (chars, false) := by
  induction chars generalizing afterGap with
  | nil => rfl
  | cons char chars ih =>
      have remark : (char == '#' && afterGap) = false := by
        rw [Bool.and_eq_false_imp, beq_iff_eq]
        rintro rfl
        exact Bool.eq_false_iff.mpr fun flag => start flag rfl
      rw [plainOnLine, remark, ih unbroken.tail (isGap char) unbroken.head?_after_gap]
      rfl

end IsUnbroken

namespace BareText

variable (text : BareText)

theorem isUnbroken : IsUnbroken text.chars where
  tab := text.tab_not_mem
  feed := text.feed_not_mem
  last := fun last => text.last ':' last (by decide)
  colon := text.colon
  hash := text.hash

theorem head?_ne_of_mem {char : Char} (indicator : char ∈ indicators) :
    text.chars.head? ≠ some char :=
  fun first => text.first char first indicator

theorem splitAtColon_key {after : List Char} (gap : startsGap after = true) :
    splitAtColon false (text.chars ++ ':' :: after) = some (text.chars, after) := by
  obtain ⟨flag, passed⟩ := text.isUnbroken.splitAtColon_append (':' :: after) false (by simp)
  rw [passed, splitAtColon, beq_self_eq_true, gap]
  simp

theorem splitAtColon_value : splitAtColon true text.chars = none := by
  obtain ⟨flag, passed⟩ := text.isUnbroken.splitAtColon_append [] true fun _ =>
    text.head?_ne_of_mem (by decide)
  rw [List.append_nil] at passed
  rw [passed]
  rfl

theorem trimEnd_eq : Text.trimEnd isGap text.chars = text.chars := by
  rw [Text.trimEnd_eq_self_iff]
  intro char last
  have space : char ≠ ' ' := by
    rintro rfl
    exact text.last ' ' last (by decide)
  have tab : char ≠ '\t' := by
    rintro rfl
    exact text.tab_not_mem (List.mem_of_getLast? last)
  simp [isGap, space, tab]

/-- A scalar without quotes is taken for one, whatever follows it. -/
theorem startsPlain_append (tail : List Char) : startsPlain (text.chars ++ tail) = true := by
  obtain ⟨first, others, whole⟩ := List.exists_cons_of_ne_nil text.filled
  have starts : text.chars.head? = some first := by rw [whole, List.head?_cons]
  have indicator := text.first first starts
  rw [whole, List.cons_append, startsPlain]
  by_cases special : first ∈ ['-', '?', ':']
  · obtain ⟨next, second, space⟩ := text.second first starts special
    rw [whole, List.tail_cons] at second
    obtain ⟨others, rfl⟩ := List.head?_eq_some_iff.mp second
    have feed : next ≠ '\n' := by
      rintro rfl
      exact text.feed_not_mem (by simp [whole])
    have tab : next ≠ '\t' := by
      rintro rfl
      exact text.tab_not_mem (by simp [whole])
    have marked : (first == '-' || first == '?' || first == ':') = true := by
      simpa [or_assoc] using special
    rw [if_pos marked]
    simp [startsGap, isGap, space, feed, tab]
  · have unmarked : ¬(first == '-' || first == '?' || first == ':') = true := by
      simpa [or_assoc] using special
    rw [if_neg unmarked]
    have feed : first ≠ '\n' := by
      rintro rfl
      exact text.feed_not_mem (by simp [whole])
    have tab : first ≠ '\t' := by
      rintro rfl
      exact text.tab_not_mem (by simp [whole])
    simp only [indicators, List.mem_cons, List.not_mem_nil, or_false, not_or] at indicator
    simp [startsGap, isGap, isFlowMark, indicator, feed, tab]

end BareText

theorem startsItem_of_startsPlain {content : List Char} (plain : startsPlain content = true) :
    startsItem content = false := by
  unfold startsItem
  split
  · rename_i rest
    simpa [startsPlain] using plain
  · rfl

theorem head?_of_startsPlain {content : List Char} (plain : startsPlain content = true)
    {char : Char} (listed : char ∈ ['\'', '"', '[', '\x7b']) : content.head? ≠ some char := by
  intro first
  obtain ⟨rest, rfl⟩ := List.head?_eq_some_iff.mp first
  simp only [List.mem_cons, List.not_mem_nil, or_false] at listed
  rcases listed with rfl | rfl | rfl | rfl <;> simp [startsPlain, isFlowMark] at plain

theorem startsQuoted_of_startsPlain {content : List Char} (plain : startsPlain content = true) :
    startsQuoted content = false := by
  unfold startsQuoted
  split
  · exact absurd rfl (head?_of_startsPlain plain (by decide : '"' ∈ _))
  · exact absurd rfl (head?_of_startsPlain plain (by decide : '\'' ∈ _))
  · rfl

theorem BareText.isMark_key (text : BareText) {mark : Char} (listed : mark ∈ ['-', '.'])
    (after : List Char) :
    isMark mark (text.chars ++ ':' :: after) = false := by
  have other : mark ≠ ':' := by
    rintro rfl
    exact absurd listed (by decide)
  have free := text.mark mark listed
  have tab := text.tab_not_mem
  have feed := text.feed_not_mem
  -- The mark would need its three characters and a blank after them before the colon of the key.
  match chars : text.chars with
  | [] => exact absurd chars text.filled
  | [_] => simp [isMark, other]
  | [_, _] => simp [isMark, other]
  | [_, _, _] => simp [isMark, startsGap, isGap]
  | first :: second :: third :: fourth :: rest =>
      rw [chars] at free tab feed
      simp only [isMark, List.cons_append, List.drop_succ_cons, List.drop_zero,
        Bool.and_eq_false_imp]
      intro same
      simp only [List.isPrefixOf, Bool.and_true, Bool.and_eq_true, beq_iff_eq] at same
      obtain ⟨rfl, rfl, rfl⟩ := same
      have space : fourth ≠ ' ' := by
        rintro rfl
        exact free (List.prefix_append [mark, mark, mark, ' '] rest)
      simp only [List.mem_cons, not_or] at tab feed
      simp [startsGap, isGap, space, Ne.symm tab.2.2.2.1, Ne.symm feed.2.2.2.1]

namespace Scalar

/-- A scalar starts with a character that is no blank and opens no comment. -/
theorem exists_first (scalar : Scalar) :
    ∃ first others, scalar.written = first :: others ∧ isGap first = false ∧
      first ≠ '#' := by
  cases scalar with
  | bare text =>
      obtain ⟨first, others, whole⟩ := List.exists_cons_of_ne_nil text.filled
      have space := text.head?_ne_of_mem (by decide : ' ' ∈ indicators)
      have hash := text.head?_ne_of_mem (by decide : '#' ∈ indicators)
      have tab : first ≠ '\t' := by
        rintro rfl
        exact text.tab_not_mem (by simp [whole])
      rw [whole, List.head?_cons, ne_eq, Option.some.injEq] at space hash
      exact ⟨first, others, whole, by simp [isGap, space, tab], hash⟩
  | single text => exact ⟨'\'', _, rfl, rfl, by decide⟩
  | double text => exact ⟨'"', _, rfl, rfl, by decide⟩

theorem splitKey_written (key : Scalar) {after : List Char} (gap : startsGap after = true) :
    splitKey (key.written ++ ':' :: after) = some (key.value, after) := by
  unfold splitKey
  cases key with
  | bare text =>
      have plain := text.startsPlain_append (':' :: after)
      simp only [written, value, Printable.text, startsQuoted_of_startsPlain plain, plain,
        text.splitAtColon_key gap, Option.map_some, text.trimEnd_eq, Bool.true_or, if_true,
        if_false, Bool.false_eq_true]
  | single text =>
      have read := readSingle_guarded text.feed_not_mem (':' :: after) (by simp)
      simp [written, value, Printable.text, startsQuoted, readQuoted, read, isGap, gap]
  | double text =>
      have read := readDouble_guarded text.feed_not_mem (':' :: after)
      simp [written, value, Printable.text, startsQuoted, readQuoted, read, isGap, gap]

theorem readInline_written (scalar : Scalar) {least : Nat} {rest : List (List Char)}
    (ends : ∀ next ∈ rest.head?, indentOf next < least) :
    readInline least scalar.written rest = some (scalar.value, rest) := by
  unfold readInline
  cases scalar with
  | bare text =>
      have plain : startsPlain text.chars = true := by simpa using text.startsPlain_append []
      have whole : readPlain least text.chars rest = some (text.chars, rest) := by
        have line := text.isUnbroken.plainOnLine_eq true fun _ => text.head?_ne_of_mem (by decide)
        unfold readPlain
        cases rest with
        | nil => simp [line, text.splitAtColon_value, text.trimEnd_eq]
        | cons next others =>
            have shallow : indentOf next < least := ends next rfl
            simp [line, text.splitAtColon_value, text.trimEnd_eq, shallow]
      have bracket := head?_of_startsPlain plain (by decide : '[' ∈ _)
      have brace := head?_of_startsPlain plain (by decide : '\x7b' ∈ _)
      simp [written, value, Printable.text, startsQuoted_of_startsPlain plain, bracket,
        brace, plain, whole]
  | single text =>
      have read := readSingle_guarded text.feed_not_mem [] (by simp)
      simp [written, value, Printable.text, startsQuoted, readQuoted, read, isRemark]
  | double text =>
      have read := readDouble_guarded text.feed_not_mem []
      simp [written, value, Printable.text, startsQuoted, readQuoted, read, isRemark]

theorem startsItem_key (key : Scalar) (after : List Char) :
    startsItem (key.written ++ ':' :: after) = false := by
  cases key with
  | bare text => exact startsItem_of_startsPlain (text.startsPlain_append _)
  | single | double => rfl

theorem isMark_key (key : Scalar) {mark : Char} (listed : mark ∈ ['-', '.']) (after : List Char) :
    isMark mark (key.written ++ ':' :: after) = false := by
  cases key with
  | bare text => exact text.isMark_key listed after
  | single | double =>
      simp only [List.mem_cons, List.not_mem_nil, or_false] at listed
      rcases listed with rfl | rfl <;> rfl

end Scalar

end LineReview.Yaml
