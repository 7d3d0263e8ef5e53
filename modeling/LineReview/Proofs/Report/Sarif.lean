import LineReview.Proofs.Review.Reference
import LineReview.Report.Format
import Mathlib.Data.String.Basic

set_option autoImplicit false

namespace LineReview

def Json.member? (name : String) : Json → Option Json
  | .object members => members.lookup name
  | _ => none

namespace Sarif

theorem mem_insert {text other : String} {texts : List String} :
    other ∈ insert text texts ↔ other = text ∨ other ∈ texts := by
  induction texts with
  | nil => simp [insert]
  | cons first rest ih =>
      unfold insert
      by_cases before : text < first
      · rw [if_pos before, List.mem_cons]
      · rw [if_neg before]
        by_cases same : text = first
        · simp [same]
        · rw [if_neg same, List.mem_cons, List.mem_cons, ih, or_left_comm]

/-- Inserting keeps an increasing list increasing. -/
theorem insert_increasing {text : String} {texts : List String}
    (increasing : texts.Pairwise (· < ·)) : (insert text texts).Pairwise (· < ·) := by
  induction texts with
  | nil => exact List.pairwise_singleton _ _
  | cons first rest ih =>
      obtain ⟨least, tail⟩ := List.pairwise_cons.mp increasing
      unfold insert
      by_cases before : text < first
      · rw [if_pos before, List.pairwise_cons]
        refine ⟨?_, increasing⟩
        intro other member
        rcases List.mem_cons.mp member with rfl | later
        · exact before
        · exact before.trans (least other later)
      · rw [if_neg before]
        by_cases same : text = first
        · rw [if_pos same]
          exact increasing
        · rw [if_neg same, List.pairwise_cons]
          refine ⟨?_, ih tail⟩
          intro other member
          rcases mem_insert.mp member with rfl | later
          · exact lt_of_le_of_ne (not_lt.mp before) (Ne.symm same)
          · exact least other later

theorem mem_distinct {text : String} {texts : List String} :
    text ∈ distinct texts ↔ text ∈ texts := by
  induction texts with
  | nil => rfl
  | cons first rest ih =>
      change text ∈ insert first (distinct rest) ↔ _
      rw [mem_insert, ih, List.mem_cons]

theorem distinct_increasing (texts : List String) : (distinct texts).Pairwise (· < ·) := by
  induction texts with
  | nil => exact List.Pairwise.nil
  | cons first rest ih => exact insert_increasing ih

theorem describe_id (id : String) : (describe id).id = id := by
  unfold describe
  cases Rule.find? id <;> rfl

/-- The descriptor that the table of rules gives for a rule. -/
def descriptorOf (rule : Rule) : Descriptor where
  id := rule.id
  name := rule.title
  short := rule.message
  full := some rule.description
  level := level rule.kind

theorem describe_rule {rule : Rule} (listed : rule ∈ Rule.all) :
    describe rule.id = descriptorOf rule := by
  rw [describe, Rule.find?_id listed]
  rfl

/-- No rule has the title that stands for an unknown one. -/
theorem title_ne_unknown {rule : Rule} (listed : rule ∈ Rule.all) : rule.title ≠ "Unknown" := by
  have every : ∀ rule ∈ Rule.all, rule.title ≠ "Unknown" := by decide
  exact every rule listed

theorem ruleIds_descriptors (path : String) (review : Review) :
    (ofReview path review).rules.map Descriptor.id = distinct (review.findings.map ruleId) := by
  have same : Descriptor.id ∘ describe = id := funext describe_id
  rw [ofReview, List.map_map, same, List.map_id]

theorem ruleIds_results (path : String) (review : Review) :
    (ofReview path review).results.map Result.ruleId = review.findings.map ruleId := by
  rw [ofReview, List.map_map]
  rfl

/-- Where the results and the descriptors stand in a log. -/
theorem exists_log (run : Run) :
    ∃ log, run.toJson.member? "runs" = some (.array [log]) ∧
      log.member? "results" = some (.array (run.results.map Result.toJson)) ∧
      ((log.member? "tool").bind (Json.member? "driver")).bind (Json.member? "rules") =
        some (.array (run.rules.map Descriptor.toJson)) := by
  unfold Run.toJson
  simp [Json.member?, List.lookup_cons]

/-- The result says what there is to say of the finding. Lines count from one, so only line zero is
moved. -/
structure Logs (path : String) (finding : Finding) (result : Result) : Prop where
  ruleId : result.ruleId = finding.rule?.getD "unknown"
  level : result.level = Sarif.level finding.kind
  message : result.message = finding.message ++ ": " ++ finding.description
  uri : result.uri = Sarif.uri path
  startLine_pos : 1 ≤ result.startLine
  startLine_eq : 1 ≤ finding.line → result.startLine = finding.line

theorem logs_resultOf (path : String) (finding : Finding) :
    Logs path finding (resultOf path finding) where
  ruleId := rfl
  level := rfl
  message := rfl
  uri := rfl
  startLine_pos := Nat.le_max_right _ _
  startLine_eq := Nat.max_eq_left

theorem ruleId_finding (site : Site Rule) : ruleId site.finding = site.entry.id := by
  have named : site.finding.rule? = some site.entry.id := Finding.rule?_of_id rfl
  rw [ruleId, named, Option.getD_some]

theorem ruleId_resultOf (path : String) (site : Site Rule) :
    (resultOf path site.finding).ruleId = site.entry.id := by
  simp only [resultOf, ruleId_finding]

/-- The descriptors of a reviewed text are those of the rules that report on it. -/
theorem mem_rules_iff {path text : String} {language : Language} {descriptor : Descriptor} :
    descriptor ∈ (ofReview path (Review.ofText text language)).rules ↔
      ∃ site : Site Rule, site.Flagged text language ∧
        descriptor = descriptorOf site.entry := by
  simp only [ofReview, List.mem_map, mem_distinct, Review.mem_findings_iff]
  constructor
  · rintro ⟨_, ⟨_, ⟨site, flag, rfl⟩, rfl⟩, rfl⟩
    exact ⟨site, flag, by rw [ruleId_finding, describe_rule flag.2.1]⟩
  · rintro ⟨site, flag, rfl⟩
    exact ⟨_, ⟨_, ⟨site, flag, rfl⟩, rfl⟩, by
      rw [ruleId_finding, describe_rule flag.2.1]⟩

/-- The result at a site names its rule and its line, and carries the level of the only descriptor
of that rule. -/
structure Places (run : Run) (site : Site Rule) (result : Result) : Prop where
  ruleId : result.ruleId = site.entry.id
  startLine : result.startLine = site.number
  described : ∃ descriptor ∈ run.rules, descriptor.id = result.ruleId
  level : ∀ descriptor ∈ run.rules, descriptor.id = result.ruleId →
    descriptor.level = result.level

theorem places_resultOf {path text : String} {language : Language} {site : Site Rule}
    (flag : site.Flagged text language) :
    Places (ofReview path (Review.ofText text language)) site (resultOf path site.finding) where
  ruleId := ruleId_resultOf path site
  startLine := Nat.max_eq_left flag.1.bounds.1
  described := ⟨descriptorOf site.entry, mem_rules_iff.mpr ⟨site, flag, rfl⟩,
    (ruleId_resultOf path site).symm⟩
  level := by
    intro descriptor member same
    obtain ⟨other, otherFlag, rfl⟩ := mem_rules_iff.mp member
    have names : other.entry.id = site.entry.id := same.trans (ruleId_resultOf path site)
    have found := Rule.find?_id otherFlag.2.1
    rw [names, Rule.find?_id flag.2.1] at found
    rw [← Option.some.inj found]
    rfl

/-- The log of a review is one run. Its results log the findings in order, its descriptors stand in
code point order without repetition, and they describe exactly the rules that the results name. An
identifier gives its rule back whatever the line and the rule are; in the log of a reviewed text
every result names the rule and the line of its finding, and every descriptor is that of a rule,
with the level of the results that name it. -/
theorem ofReview_consistent (path : String) :
    (∀ review : Review,
      let run := ofReview path review
      (∃ log, run.toJson.member? "runs" = some (.array [log]) ∧
        log.member? "results" = some (.array (run.results.map Result.toJson)) ∧
        ((log.member? "tool").bind (Json.member? "driver")).bind (Json.member? "rules") =
          some (.array (run.rules.map Descriptor.toJson))) ∧
      List.Forall₂ (Logs path) review.findings run.results ∧
      (run.rules.map Descriptor.id).Pairwise (· < ·) ∧
      ∀ id, id ∈ run.rules.map Descriptor.id ↔ id ∈ run.results.map Result.ruleId) ∧
    (∀ (line : Nat) (name : String) (finding : Finding),
      finding.id = Finding.idFor line name → finding.rule? = some name) ∧
    ∀ (text : String) (language : Language),
      let review := Review.ofText text language
      let run := ofReview path review
      (∃ flagged : List (Site Rule),
        Site.Lists Rule.place (Site.Flagged text language) flagged ∧
        review.findings = flagged.map Site.finding ∧
        List.Forall₂ (Places run) flagged run.results) ∧
      (∀ descriptor ∈ run.rules, ∃ rule ∈ Rule.all, descriptor = descriptorOf rule ∧
        descriptor.name ≠ "Unknown" ∧ descriptor.full.isSome = true) ∧
      List.Forall₂ (fun finding result => result.startLine = finding.line) review.findings
        run.results := by
  refine ⟨?_, fun line name finding id => Finding.rule?_of_id id, ?_⟩
  · intro review run
    refine ⟨exists_log run, ?_, ?_, ?_⟩
    · exact List.forall₂_map_right_iff.mpr
        (List.forall₂_same.mpr fun finding _ => logs_resultOf path finding)
    · rw [ruleIds_descriptors]
      exact distinct_increasing _
    · intro id
      rw [ruleIds_descriptors, ruleIds_results, mem_distinct]
  · intro text language review run
    have sites := Site.flagged_lists text language
    have findings := Review.findings_ofText text language
    have results : run.results =
        (Site.flagged (Review.numberedLines text) language).map fun site =>
          resultOf path site.finding := by
      change review.findings.map (resultOf path) = _
      rw [findings, List.map_map]
      rfl
    refine ⟨⟨_, sites, findings, ?_⟩, ?_, ?_⟩
    · rw [results, List.forall₂_map_right_iff, List.forall₂_same]
      intro site member
      exact places_resultOf ((sites.mem_iff site).mp member)
    · intro descriptor member
      obtain ⟨site, flag, rfl⟩ := mem_rules_iff.mp member
      exact ⟨site.entry, flag.2.1, rfl, title_ne_unknown flag.2.1, rfl⟩
    · refine List.forall₂_map_right_iff.mpr (List.forall₂_same.mpr fun finding member => ?_)
      obtain ⟨site, flag, rfl⟩ := Review.mem_findings_iff.mp member
      exact Nat.max_eq_left flag.1.bounds.1

theorem ofReview_consistent_of_hyphenated_rule :
    let finding : Finding := {
      id := "bug-18446744073709551616-null-check", line := 7, kind := .error, message := "m",
        description := "d"
      severity := .low }
    let review : Review :=
      { findings := [finding], repairs := [], notes := [], rating := .good, advice := [] }
    finding.id = Finding.idFor 18446744073709551616 "null-check" ∧
    finding.rule? = some "null-check" ∧
      1 ≤ finding.line ∧ ∃ result, (ofReview "src\\app.js" review).results = [result] ∧
        result.ruleId = "null-check" ∧ result.startLine = 7 := by
  intro finding review
  obtain ⟨logged, inverted, -⟩ := ofReview_consistent "src\\app.js"
  obtain ⟨-, results, -, -⟩ := logged review
  have spelled : finding.id = Finding.idFor 18446744073709551616 "null-check" := by decide
  have named : finding.rule? = some "null-check" := inverted _ _ finding spelled
  have positive : 1 ≤ finding.line := by decide
  obtain ⟨result, rest, first, others, same⟩ := List.forall₂_cons_left_iff.mp results
  have alone : rest = [] := List.forall₂_nil_left_iff.mp others
  refine ⟨spelled, named, positive, result, by rw [same, alone], ?_,
    first.startLine_eq positive⟩
  rw [first.ruleId, named, Option.getD_some]

end Sarif

end LineReview
