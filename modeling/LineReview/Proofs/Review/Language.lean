import LineReview.Proofs.Review.Reference

set_option autoImplicit false

namespace LineReview

namespace Rule

def scriptRules : List Rule :=
  [varKeyword, looseEquality, consoleCall, missingSemicolon, uncheckedQuery]

def pythonRules : List Rule :=
  [printCall, missingTypeHints, indexIteration]

def generalRules : List Rule :=
  [markerComment, longLine]

theorem all_eq_append : all = scriptRules ++ pythonRules ++ generalRules := rfl

/-- The scope of a rule tells the part of the table that it stands in. -/
theorem mem_part_of_mem {rule : Rule} (listed : rule ∈ all) :
    match rule.scope with
    | .script => rule ∈ scriptRules
    | .python => rule ∈ pythonRules
    | .everywhere => rule ∈ generalRules := by
  have script : ∀ rule ∈ scriptRules, rule.scope = .script := by decide
  have python : ∀ rule ∈ pythonRules, rule.scope = .python := by decide
  have general : ∀ rule ∈ generalRules, rule.scope = .everywhere := by decide
  rw [all_eq_append, List.mem_append, List.mem_append] at listed
  rcases listed with (part | part) | part
  · rw [script rule part]
    exact part
  · rw [python rule part]
    exact part
  · rw [general rule part]
    exact part

theorem template_of_everywhere {rule : Rule} (listed : rule ∈ all)
    (everywhere : rule.scope = .everywhere) : rule.template = none := by
  have part := mem_part_of_mem listed
  rw [everywhere] at part
  simp only [generalRules, List.mem_cons, List.not_mem_nil, or_false] at part
  rcases part with rfl | rfl <;> rfl

end Rule

/-- The finding comes from a rule that runs for every language. -/
def Finding.isGeneral (finding : Finding) : Bool :=
  finding.rule? == some "todo" || finding.rule? == some "long-line"

theorem Rule.isGeneral_findingAt {rule : Rule} (listed : rule ∈ all) (number : Nat) :
    (rule.findingAt number).isGeneral = (rule.scope == .everywhere) := by
  have named : (rule.findingAt number).rule? = some rule.id := Finding.rule?_of_id rfl
  rw [Finding.isGeneral, named]
  simp only [all, List.mem_cons, List.not_mem_nil, or_false] at listed
  rcases listed with rfl | rfl | rfl | rfl | rfl | rfl | rfl | rfl | rfl | rfl <;> rfl

/-- Of the rules, only those that run everywhere run for these languages. -/
theorem Scope.covers_of_compiled {language : Language}
    (compiled : language ∈ [.java, .cpp, .go, .rust]) (scope : Scope) :
    scope.covers language = (scope == .everywhere) := by
  simp only [List.mem_cons, List.not_mem_nil, or_false] at compiled
  rcases compiled with rfl | rfl | rfl | rfl <;> cases scope <;> rfl

namespace Site

section Collect

variable {Entry : Type}

theorem collect_congr {table : List Entry} {picks others : Entry → Line → Bool}
    (numbered : List (Line × Nat))
    (same : ∀ entry ∈ table, ∀ line, picks entry line = others entry line) :
    collect table picks numbered = collect table others numbered := by
  unfold collect
  congr 1
  funext shown
  rw [List.filter_congr fun entry listed => same entry listed shown.1]

theorem filter_collect (table : List Entry) (picks : Entry → Line → Bool)
    (keeps : Entry → Bool) (numbered : List (Line × Nat)) :
    (collect table picks numbered).filter (fun site => keeps site.entry) =
      collect table (fun entry line => keeps entry && picks entry line) numbered := by
  simp only [collect, List.filter_flatMap, List.filter_map, List.filter_filter, Function.comp_def]

end Collect

/-- Which sites are flagged depends on the scopes that cover the language. -/
theorem flagged_eq_of_covers {first second : Language}
    (same : ∀ scope : Scope, scope.covers first = scope.covers second)
    (numbered : List (Line × Nat)) :
    flagged numbered first = flagged numbered second := by
  apply collect_congr
  intro rule _ line
  rw [same]

/-- The flagged sites whose rules run everywhere are the same under every language. -/
theorem filter_flagged (numbered : List (Line × Nat)) (language : Language) :
    (flagged numbered language).filter (fun site => site.entry.scope == .everywhere) =
      flagged numbered .go := by
  have compiled : Language.go ∈ [Language.java, .cpp, .go, .rust] := by decide
  rw [flagged, filter_collect _ _ fun rule : Rule => rule.scope == .everywhere]
  apply collect_congr
  intro rule _ line
  rw [Scope.covers_of_compiled compiled]
  cases rule.scope <;> rfl

end Site

/-- Whether a remark is made does not depend on which of the languages other than Python is
declared. -/
theorem Remark.applies_eq {remark : Remark} (listed : remark ∈ all) {first second : Language}
    (same : (first == .python) = (second == .python)) (findings : List Finding)
    (notes : List Note) :
    remark.applies ⟨first, findings, notes⟩ = remark.applies ⟨second, findings, notes⟩ := by
  simp only [all, List.mem_cons, List.not_mem_nil, or_false] at listed
  rcases listed with rfl | rfl | rfl | rfl | rfl | rfl | rfl | rfl | rfl
  case inr.inr.inr.inr.inr.inr.inr.inl =>
    simp only [directIteration, same]
    rfl
  all_goals rfl

namespace Review

theorem notes_eq (text : String) (first second : Language) :
    (ofText text first).notes = (ofText text second).notes := by
  rw [notes_ofText, notes_ofText]

/-- Languages that the same scopes cover get the same review. -/
theorem ofText_eq_of_covers {first second : Language}
    (same : ∀ scope : Scope, scope.covers first = scope.covers second) (text : String) :
    ofText text first = ofText text second := by
  have checked : checks text first = checks text second := by
    rw [checks_eq_map, checks_eq_map, Site.flagged_eq_of_covers same]
  have advised : ∀ findings notes,
      Evidence.advice ⟨first, findings, notes⟩ =
        Evidence.advice ⟨second, findings, notes⟩ := by
    intro findings notes
    unfold Evidence.advice
    congr 1
    apply List.filter_congr
    intro remark listed
    exact Remark.applies_eq listed (same .python) findings notes
  simp only [ofText, checked, advised]

theorem filter_findings (text : String) (language : Language) :
    (ofText text language).findings.filter Finding.isGeneral = (ofText text .go).findings := by
  have listed := (Site.flagged_lists text language).mem_iff
  have general : ∀ site ∈ Site.flagged (numberedLines text) language,
      (Finding.isGeneral ∘ Site.finding) site = (site.entry.scope == .everywhere) := by
    intro site member
    rw [Function.comp_apply, Site.finding]
    exact Rule.isGeneral_findingAt ((listed site).mp member).2.1 site.number
  rw [findings_ofText, findings_ofText, List.filter_map, List.filter_congr general,
    Site.filter_flagged]

theorem repairs_of_compiled {language : Language}
    (compiled : language ∈ [.java, .cpp, .go, .rust]) (text : String) :
    (ofText text language).repairs = [] := by
  rw [List.eq_nil_iff_forall_not_mem]
  intro repair member
  obtain ⟨site, ⟨-, listed, covered, -⟩, repaired⟩ := mem_repairs_iff.mp member
  rw [Scope.covers_of_compiled compiled, beq_iff_eq] at covered
  rw [Site.repair?, Rule.template_of_everywhere listed covered] at repaired
  cases repaired

/-- A finding that does not come from a rule for every language comes from a rule of the language's
own scope. -/
theorem exists_own_rule {text : String} {language : Language} {finding : Finding}
    (member : finding ∈ (ofText text language).findings) (own : finding.isGeneral = false) :
    ∃ site : Site Rule, site.Flagged text language ∧
      finding = site.entry.findingAt site.number ∧
      (language.isScript = true ∧ site.entry ∈ Rule.scriptRules ∨
        language = .python ∧ site.entry ∈ Rule.pythonRules) := by
  obtain ⟨site, flag, rfl⟩ := mem_findings_iff.mp member
  refine ⟨site, flag, rfl, ?_⟩
  obtain ⟨-, listed, covered, -⟩ := flag
  have part := Rule.mem_part_of_mem listed
  have restricted : (site.entry.scope == .everywhere) = false := by
    rw [← Rule.isGeneral_findingAt listed site.number]
    exact own
  cases scope : site.entry.scope with
  | script =>
      rw [scope] at part covered
      exact Or.inl ⟨covered, part⟩
  | python =>
      rw [scope] at part covered
      exact Or.inr ⟨beq_iff_eq.mp covered, part⟩
  | everywhere =>
      rw [scope] at restricted
      cases restricted

/-- What the reviews of one text under several languages have in common: the notes always;
everything for JavaScript and TypeScript, and for the languages without rules of their own, which
get no repairs; and the findings of the rules that run everywhere, which are all that Go gets. The
others come from the rules of the language's own scope. -/
theorem ofText_across_languages (text : String) :
    (∀ first second, (ofText text first).notes = (ofText text second).notes) ∧
    ofText text .javascript = ofText text .typescript ∧
    (∀ language ∈ [.java, .cpp, .go, .rust],
      ofText text language = ofText text .go ∧ (ofText text language).repairs = []) ∧
    (∀ language, (ofText text language).findings.filter Finding.isGeneral =
      (ofText text .go).findings) ∧
    (∀ finding ∈ (ofText text .python).findings, finding.isGeneral = false →
      ∃ site : Site Rule, site.Flagged text .python ∧
        finding = site.entry.findingAt site.number ∧
        site.entry ∈ [Rule.printCall, Rule.missingTypeHints, Rule.indexIteration]) ∧
    (∀ language ∈ [.javascript, .typescript], ∀ finding ∈ (ofText text language).findings,
      finding.isGeneral = false →
      ∃ site : Site Rule, site.Flagged text language ∧
        finding = site.entry.findingAt site.number ∧
        site.entry ∈ [Rule.varKeyword, Rule.looseEquality, Rule.consoleCall,
          Rule.missingSemicolon, Rule.uncheckedQuery]) := by
  refine ⟨notes_eq text, ?_, ?_, filter_findings text, ?_, ?_⟩
  · apply ofText_eq_of_covers
    intro scope
    cases scope <;> rfl
  · intro language compiled
    refine ⟨?_, repairs_of_compiled compiled text⟩
    apply ofText_eq_of_covers
    intro scope
    rw [Scope.covers_of_compiled compiled, Scope.covers_of_compiled (by decide)]
  · intro finding member own
    obtain ⟨site, flag, same, ⟨script, -⟩ | ⟨-, listed⟩⟩ := exists_own_rule member own
    · cases script
    · exact ⟨site, flag, same, listed⟩
  · intro language script finding member own
    obtain ⟨site, flag, same, ⟨-, listed⟩ | ⟨rfl, -⟩⟩ := exists_own_rule member own
    · exact ⟨site, flag, same, listed⟩
    · exact absurd script (by decide)

theorem ofText_across_languages_of_marked_call :
    ofText "print(var a) TODO" .rust = ofText "print(var a) TODO" .go ∧
    ∃ finding ∈ (ofText "print(var a) TODO" .typescript).findings, finding.isGeneral = false ∧
      ∃ site : Site Rule, site.Flagged "print(var a) TODO" .typescript ∧
        finding = site.entry.findingAt site.number ∧
        site.entry ∈ [Rule.varKeyword, Rule.looseEquality, Rule.consoleCall,
          Rule.missingSemicolon, Rule.uncheckedQuery] := by
  have member : Rule.varKeyword.findingAt 1 ∈ (ofText "print(var a) TODO" .typescript).findings :=
    by decide +kernel
  have own : (Rule.varKeyword.findingAt 1).isGeneral = false := by decide +kernel
  obtain ⟨-, -, compiled, -, -, script⟩ := ofText_across_languages "print(var a) TODO"
  exact ⟨(compiled .rust (by decide)).1, _, member, own,
    script .typescript (by decide) _ member own⟩

end Review

end LineReview
