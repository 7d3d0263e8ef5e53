import LineReview.Proofs.Review.Concatenation
import LineReview.Proofs.Review.Exactness

set_option autoImplicit false

/-! Grounds for advice. A remark looks for a word in the messages of findings, and no message holds
such a word by accident: it is made for the findings of one rule, or it is never made. -/

namespace LineReview

namespace Rule

/-- The identifiers of the rules whose messages hold the word. -/
def saying (word : String) : List String :=
  (all.filter fun rule => Text.contains word.toList rule.message.toList).map Rule.id

/-- The words that remarks look for, with the rules that say them. The message on output to the
console starts with a capital letter, and the one on iteration spells no call. -/
theorem saying_words :
    ["var", "console", "equality", "semicolon", "null", "range(len", "TODO"].map saying =
      [["var"], [], ["equality"], ["semicolon"], ["null-check"], [], ["todo"]] := by
  decide +kernel

theorem id_inj {rule other : Rule} (listed : rule ∈ all) (otherListed : other ∈ all)
    (same : rule.id = other.id) : rule = other := by
  have found := find?_id listed
  rw [same, find?_id otherListed] at found
  exact (Option.some.inj found).symm

/-- If the only message with the word is that of a rule, it is found in the message of that rule
alone. -/
theorem message_contains_iff {rule other : Rule} {word : String} (only : saying word = [rule.id])
    (listed : rule ∈ all) (otherListed : other ∈ all) :
    Text.contains word.toList other.message.toList = true ↔ other = rule := by
  have among : other.id ∈ saying word ↔ other.id = rule.id := by rw [only, List.mem_singleton]
  simp only [saying, List.mem_map, List.mem_filter] at among
  constructor
  · intro worded
    exact id_inj otherListed listed (among.mp ⟨other, ⟨otherListed, worded⟩, rfl⟩)
  · rintro rfl
    obtain ⟨another, ⟨anotherListed, worded⟩, same⟩ := among.mpr rfl
    rwa [← id_inj anotherListed otherListed same]

theorem message_contains_eq_false {word : String} (nowhere : saying word = []) {rule : Rule}
    (listed : rule ∈ all) :
    Text.contains word.toList rule.message.toList = false := by
  rw [saying, List.map_eq_nil_iff, List.filter_eq_nil_iff] at nowhere
  exact Bool.eq_false_iff.mpr (nowhere rule listed)

end Rule

def Remark.when (remark : Remark) (made : Bool) : List String :=
  if made then [remark.text] else []

theorem Evidence.advice_eq_flatMap (evidence : Evidence) :
    evidence.advice = Remark.all.flatMap fun remark => remark.when (remark.applies evidence) := by
  unfold advice
  induction Remark.all with
  | nil => rfl
  | cons remark rest ih =>
      rw [List.flatMap_cons, ← ih, List.filter_cons, Remark.when]
      cases remark.applies evidence <;> rfl

namespace Review

/-- Some finding of the review comes from the rule. -/
def blames (review : Review) (rule : Rule) : Bool :=
  review.findings.any fun finding => finding == rule.findingAt finding.line

section Grounds

variable {text : String} {language : Language}

/-- A finding comes from a rule just where the rule finds fault with a line of the text. -/
theorem blames_iff {rule : Rule} (listed : rule ∈ Rule.all) :
    (ofText text language).blames rule = true ↔
      ∃ site : Site Rule, site.Flagged text language ∧ site.entry = rule := by
  simp only [blames, List.any_eq_true, beq_iff_eq, mem_findings_iff]
  constructor
  · rintro ⟨finding, ⟨site, flag, rfl⟩, same⟩
    exact ⟨site, flag, ((Site.finding_eq_findingAt_iff flag listed _).mp same).2⟩
  · rintro ⟨site, flag, rfl⟩
    exact ⟨site.finding, ⟨site, flag, rfl⟩, rfl⟩

theorem mentions_iff {word : String} :
    ((ofText text language).evidence language).mentions word = true ↔
      ∃ site : Site Rule, site.Flagged text language ∧
        Text.contains word.toList site.entry.message.toList = true := by
  simp only [Evidence.mentions, evidence, List.any_eq_true, mem_findings_iff]
  constructor
  · rintro ⟨finding, ⟨site, flag, rfl⟩, worded⟩
    exact ⟨site, flag, worded⟩
  · rintro ⟨site, flag, worded⟩
    exact ⟨site.finding, ⟨site, flag, rfl⟩, worded⟩

/-- A word that only one rule worded is mentioned just where a finding comes from that rule. -/
theorem mentions_eq_blames {rule : Rule} {word : String} (only : Rule.saying word = [rule.id])
    (listed : rule ∈ Rule.all) :
    ((ofText text language).evidence language).mentions word =
      (ofText text language).blames rule := by
  rw [Bool.eq_iff_iff, mentions_iff, blames_iff listed]
  constructor
  · rintro ⟨site, flag, worded⟩
    exact ⟨site, flag, (Rule.message_contains_iff only listed flag.2.1).mp worded⟩
  · rintro ⟨site, flag, same⟩
    exact ⟨site, flag, (Rule.message_contains_iff only listed flag.2.1).mpr same⟩

theorem mentions_eq_false {word : String} (nowhere : Rule.saying word = []) :
    ((ofText text language).evidence language).mentions word = false := by
  rw [Bool.eq_false_iff, ne_eq, mentions_iff]
  rintro ⟨site, flag, worded⟩
  rw [Rule.message_contains_eq_false nowhere flag.2.1] at worded
  cases worded

/-- What each remark, in the order of all of them, is made for: the findings of one rule, the notes,
the lack of findings, or nothing at all. -/
theorem applies_by_rules (text : String) (language : Language) :
    let review := ofText text language
    Remark.all.map (fun remark => remark.applies (review.evidence language)) = [
      review.blames Rule.varKeyword, false, review.blames Rule.looseEquality,
        review.blames Rule.missingSemicolon,
      review.blames Rule.uncheckedQuery, !review.notes.isEmpty, review.findings.isEmpty, false,
      review.blames Rule.markerComment] := by
  intro review
  have words := Rule.saying_words
  simp only [List.map_cons, List.map_nil, List.cons.injEq, and_true] at words
  obtain ⟨varSaid, consoleSaid, equalitySaid, semicolonSaid, nullSaid, iterationSaid,
    todoSaid⟩ := words
  have iteration : Remark.directIteration.applies (review.evidence language) = false := by
    have unspoken : (review.evidence language).mentions "range(len" = false :=
      mentions_eq_false iterationSaid
    simp only [Remark.directIteration, unspoken, Bool.and_false]
  simp only [Remark.all, List.map_cons, List.map_nil, List.cons.injEq, and_true]
  exact ⟨mentions_eq_blames varSaid (by simp [Rule.all]), mentions_eq_false consoleSaid,
    mentions_eq_blames equalitySaid (by simp [Rule.all]),
      mentions_eq_blames semicolonSaid (by simp [Rule.all]),
    mentions_eq_blames nullSaid (by simp [Rule.all]), rfl, rfl, iteration,
    mentions_eq_blames todoSaid (by simp [Rule.all])⟩

/-- The advice of a review is made up of seven remarks, each made for the findings of one rule, for
the notes or for the lack of findings. The remarks on output to the console and on iteration are
never made. -/
theorem advice_by_rules (text : String) (language : Language) :
    let review := ofText text language
    review.advice =
      Remark.modernDeclarations.when (review.blames Rule.varKeyword) ++
        Remark.strictEquality.when (review.blames Rule.looseEquality) ++
        Remark.explicitSemicolons.when (review.blames Rule.missingSemicolon) ++
        Remark.nullChecks.when (review.blames Rule.uncheckedQuery) ++
        Remark.goodStructure.when (!review.notes.isEmpty) ++
        Remark.noIssues.when review.findings.isEmpty ++
        Remark.openMarkers.when (review.blames Rule.markerComment) ∧
      review.advice.Nodup ∧
      Remark.productionLogging.text ∉ review.advice ∧
      Remark.directIteration.text ∉ review.advice := by
  intro review
  have made : review.advice = (review.evidence language).advice := advice_ofText text language
  have applied := applies_by_rules text language
  simp only [Remark.all, List.map_cons, List.map_nil, List.cons.injEq, and_true] at applied
  obtain ⟨declarations, logging, equality, semicolons, checks, structured, clean, iteration,
    markers⟩ := applied
  refine ⟨?_, ?_, ?_, ?_⟩
  · have silent : ∀ remark : Remark, remark.when false = [] := fun _ => rfl
    rw [made, Evidence.advice_eq_flatMap]
    simp only [review, Remark.all, List.flatMap_cons, List.flatMap_nil, declarations, equality,
      semicolons, checks, markers, structured, clean, logging, iteration, silent, List.append_nil,
      List.nil_append, List.append_assoc]
  · rw [made]
    exact Evidence.advice_nodup _
  · rw [made, Evidence.text_mem_advice_iff _ (by simp [Remark.all]), logging]
    exact Bool.false_ne_true
  · rw [made, Evidence.text_mem_advice_iff _ (by simp [Remark.all]), iteration]
    exact Bool.false_ne_true

end Grounds

end Review

end LineReview
