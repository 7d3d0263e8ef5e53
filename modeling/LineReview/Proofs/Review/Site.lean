import LineReview.Proofs.Text.Line
import LineReview.Review

set_option autoImplicit false

/-! Sites: the places of a text at which a rule or a topic reports. Findings, repairs and notes are
read off the sites, which come in the order of the lines and, on a line, in the order of the
table. -/

namespace LineReview

/-- An entry of a table, a rule or a topic, on a numbered line as it is looked at. -/
structure Site (Entry : Type) where
  number : Nat
  line : Line
  entry : Entry

def Rule.place (rule : Rule) : Nat :=
  Rule.all.findIdx fun other => other.id == rule.id

def Topic.place (topic : Topic) : Nat :=
  Topic.all.findIdx fun other => other.id == topic.id

theorem Rule.place_increasing :
    Rule.all.Pairwise fun first second => first.place < second.place := by
  decide

theorem Topic.place_increasing :
    Topic.all.Pairwise fun first second => first.place < second.place := by
  decide

namespace Site

section Collect

variable {Entry : Type}

/-- A site lies on an earlier line than another, or on the same line at an earlier place of the
table. -/
def Before (place : Entry → Nat) (first second : Site Entry) : Prop :=
  first.number < second.number ∨
    first.number = second.number ∧ place first.entry < place second.entry

/-- The site is on the piece of the text with its number, counted from one, as far as that piece is
looked at. -/
def IsOn (text : String) (site : Site Entry) : Prop :=
  ∃ index piece, (Line.ofText text)[index]? = some piece ∧
    site.number = index + 1 ∧ site.line = piece.trimmed

/-- The list holds exactly the sites of a condition, each once, in order. -/
structure Lists (place : Entry → Nat) (holds : Site Entry → Prop) (sites : List (Site Entry)) :
    Prop where
  mem_iff : ∀ site, site ∈ sites ↔ holds site
  increasing : sites.Pairwise (Before place)

/-- The sites at which entries of a table pick out numbered lines. -/
def collect (table : List Entry) (picks : Entry → Line → Bool) (numbered : List (Line × Nat)) :
    List (Site Entry) :=
  numbered.flatMap fun shown =>
    (table.filter fun entry => picks entry shown.1).map fun entry => ⟨shown.2, shown.1, entry⟩

theorem mem_collect (table : List Entry) (picks : Entry → Line → Bool)
    (numbered : List (Line × Nat)) (site : Site Entry) :
    site ∈ collect table picks numbered ↔
      (site.line, site.number) ∈ numbered ∧ site.entry ∈ table ∧
        picks site.entry site.line = true := by
  simp only [collect, List.mem_flatMap, List.mem_map, List.mem_filter]
  constructor
  · rintro ⟨shown, member, entry, ⟨listed, picked⟩, rfl⟩
    exact ⟨member, listed, picked⟩
  · rintro ⟨member, listed, picked⟩
    exact ⟨_, member, site.entry, ⟨listed, picked⟩, rfl⟩

theorem collect_increasing (place : Entry → Nat) (table : List Entry)
    (picks : Entry → Line → Bool) (numbered : List (Line × Nat))
    (placed : table.Pairwise fun first second => place first < place second)
    (counted : numbered.Pairwise fun first second => first.2 < second.2) :
    (collect table picks numbered).Pairwise (Before place) := by
  rw [collect, List.pairwise_flatMap]
  constructor
  · intro shown _
    rw [List.pairwise_map]
    exact (placed.filter _).imp fun earlier => Or.inr ⟨rfl, earlier⟩
  · refine counted.imp ?_
    intro first second earlier left leftMember right rightMember
    obtain ⟨_, _, rfl⟩ := List.mem_map.mp leftMember
    obtain ⟨_, _, rfl⟩ := List.mem_map.mp rightMember
    exact Or.inl earlier

theorem collect_append (table : List Entry) (picks : Entry → Line → Bool)
    (first second : List (Line × Nat)) :
    collect table picks (first ++ second) = collect table picks first ++
      collect table picks second :=
  List.flatMap_append

end Collect

end Site

namespace Review

theorem mem_numberedLines (text : String) (line : Line) (number : Nat) :
    (line, number) ∈ numberedLines text ↔
      ∃ index piece, (Line.ofText text)[index]? = some piece ∧
        number = index + 1 ∧ line = piece.trimmed := by
  rw [numberedLines, List.mk_mem_zipIdx_iff_le_and_getElem?_sub, List.getElem?_map,
    Option.map_eq_some_iff]
  constructor
  · rintro ⟨positive, piece, found, shown⟩
    exact ⟨number - 1, piece, found, by omega, shown.symm⟩
  · rintro ⟨index, piece, found, rfl, rfl⟩
    exact ⟨by omega, piece, by simpa using found, rfl⟩

theorem numberedLines_increasing (text : String) :
    (numberedLines text).Pairwise fun first second => first.2 < second.2 := by
  have numbers : ((numberedLines text).map Prod.snd).Pairwise (· < ·) := by
    rw [numberedLines, List.zipIdx_map_snd]
    exact List.pairwise_lt_range'
  rwa [List.pairwise_map] at numbers

end Review

namespace Site

def finding (site : Site Rule) : Finding :=
  site.entry.findingAt site.number

/-- The repair at a site, if its rule has a template. -/
def repair? (site : Site Rule) : Option Repair :=
  site.entry.template.map fun template => site.entry.repairAt template site.number site.line

def note (site : Site Topic) : Note :=
  site.entry.noteAt site.number site.line

/-- A rule that runs for the language finds fault with a line of the text. -/
def Flagged (text : String) (language : Language) (site : Site Rule) : Prop :=
  site.IsOn text ∧ site.entry ∈ Rule.all ∧ site.entry.scope.covers language = true ∧
    site.entry.flags site.line = true

/-- A topic is recognised on a line of the text that notes are given on. -/
def Explained (text : String) (site : Site Topic) : Prop :=
  site.IsOn text ∧ site.entry ∈ Topic.all ∧ site.line.isExplainable = true ∧
    site.entry.matchesLine site.line = true

/-- The sites of all findings, in order. -/
def flagged (numbered : List (Line × Nat)) (language : Language) : List (Site Rule) :=
  collect Rule.all (fun rule line => rule.scope.covers language && rule.flags line) numbered

/-- The sites of all notes, in order, those of notes that are not kept included. -/
def explained (numbered : List (Line × Nat)) : List (Site Topic) :=
  collect Topic.all (fun topic line => line.isExplainable && topic.matchesLine line) numbered

theorem flagged_lists (text : String) (language : Language) :
    Lists Rule.place (Flagged text language) (flagged (Review.numberedLines text) language) where
  mem_iff := by
    intro site
    simp only [flagged, mem_collect, Review.mem_numberedLines, Bool.and_eq_true, Flagged, IsOn]
  increasing :=
    collect_increasing _ _ _ _ Rule.place_increasing (Review.numberedLines_increasing text)

theorem explained_lists (text : String) :
    Lists Topic.place (Explained text) (explained (Review.numberedLines text)) where
  mem_iff := by
    intro site
    simp only [explained, mem_collect, Review.mem_numberedLines, Bool.and_eq_true, Explained, IsOn]
  increasing :=
    collect_increasing _ _ _ _ Topic.place_increasing (Review.numberedLines_increasing text)

end Site

namespace Review

/-- What the rules report on a numbered line, site by site. -/
theorem checkLine_eq_map (language : Language) (shown : Line × Nat) :
    checkLine language shown =
      (Rule.all.filter fun rule => rule.scope.covers language && rule.flags shown.1).map fun rule =>
        (rule.findingAt shown.2, rule.template.map fun template =>
          rule.repairAt template shown.2 shown.1) := by
  unfold checkLine Rule.applicable Rule.check
  induction Rule.all with
  | nil => rfl
  | cons rule rest ih =>
      by_cases covered : rule.scope.covers language = true <;>
        by_cases fault : rule.flags shown.1 = true <;>
        simp [covered, fault, ih]

theorem checks_eq_map (text : String) (language : Language) :
    checks text language =
      (Site.flagged (numberedLines text) language).map fun site =>
        (site.finding, site.repair?) := by
  rw [checks, Site.flagged, Site.collect, List.map_flatMap]
  congr 1
  funext shown
  rw [checkLine_eq_map, List.map_map]
  rfl

theorem findings_ofText (text : String) (language : Language) :
    (ofText text language).findings =
      (Site.flagged (numberedLines text) language).map Site.finding := by
  change (checks text language).map Prod.fst = _
  rw [checks_eq_map, List.map_map]
  rfl

theorem repairs_ofText (text : String) (language : Language) :
    (ofText text language).repairs =
      (Site.flagged (numberedLines text) language).filterMap Site.repair? := by
  change (checks text language).filterMap Prod.snd = _
  rw [checks_eq_map, List.filterMap_map]
  rfl

theorem notesOnLine_eq_map (shown : Line × Nat) :
    notesOnLine shown =
      (Topic.all.filter fun topic =>
        shown.1.isExplainable && topic.matchesLine shown.1).map fun topic =>
        topic.noteAt shown.2 shown.1 := by
  unfold notesOnLine Topic.notesOn
  cases shown.1.isExplainable <;> simp

theorem notesOn_eq_map (text : String) :
    notesOn text = ((Site.explained (numberedLines text)).take maxNotes).map Site.note := by
  have every : (numberedLines text).flatMap notesOnLine =
      (Site.explained (numberedLines text)).map Site.note := by
    rw [Site.explained, Site.collect, List.map_flatMap]
    congr 1
    funext shown
    rw [notesOnLine_eq_map, List.map_map]
    rfl
  rw [notesOn, every, List.map_take]

theorem notes_ofText (text : String) (language : Language) :
    (ofText text language).notes =
      ((Site.explained (numberedLines text)).take maxNotes).map Site.note :=
  notesOn_eq_map text

end Review

end LineReview
