import LineReview.Proofs.Review.Reference

set_option autoImplicit false

namespace LineReview

namespace Site

/-- A finding belongs to no site but that of its own line and rule. -/
theorem finding_eq_findingAt_iff {text : String} {language : Language} {site : Site Rule}
    (flag : site.Flagged text language) {rule : Rule} (listed : rule ∈ Rule.all) (number : Nat) :
    site.finding = rule.findingAt number ↔ site.number = number ∧ site.entry = rule := by
  constructor
  · intro same
    have source := source?_finding flag
    rw [same, Rule.source?_findingAt listed number] at source
    exact ⟨congrArg Finding.line same, (Option.some.inj source).symm⟩
  · rintro ⟨rfl, rfl⟩
    rfl

/-- A site that is passed over when only the first ones are kept comes after as many as are kept. -/
theorem before_of_not_mem_take {Entry : Type} {place : Entry → Nat} {holds : Site Entry → Prop}
    {sites : List (Site Entry)} (listing : Lists place holds sites) (count : Nat)
    {site : Site Entry} (holding : holds site) (absent : site ∉ sites.take count) :
    (sites.take count).length = count ∧
      ∀ kept ∈ sites.take count, kept.Before place site := by
  have member : site ∈ sites.take count ++ sites.drop count := by
    rw [List.take_append_drop]
    exact (listing.mem_iff site).mpr holding
  have later : site ∈ sites.drop count := (List.mem_append.mp member).resolve_left absent
  have split : (sites.take count ++ sites.drop count).Pairwise (Before place) := by
    rw [List.take_append_drop]
    exact listing.increasing
  constructor
  · have remaining := List.length_pos_of_mem later
    rw [List.length_drop] at remaining
    rw [List.length_take]
    omega
  · intro kept early
    exact (List.pairwise_append.mp split).2.2 kept early site later

end Site

namespace Review

theorem findingAt_mem_iff (text : String) (language : Language) {rule : Rule}
    (listed : rule ∈ Rule.all) (number : Nat) :
    rule.findingAt number ∈ (ofText text language).findings ↔
      ∃ line, Site.Flagged text language ⟨number, line, rule⟩ := by
  rw [mem_findings_iff]
  constructor
  · rintro ⟨site, flag, same⟩
    obtain ⟨rfl, rfl⟩ := (Site.finding_eq_findingAt_iff flag listed number).mp same
    exact ⟨site.line, flag⟩
  · rintro ⟨line, flag⟩
    exact ⟨_, flag, rfl⟩

theorem count_finding {text : String} {language : Language} {site : Site Rule}
    (flag : site.Flagged text language) :
    (ofText text language).findings.count site.finding = 1 := by
  apply List.count_eq_one_of_mem
  · exact (findings_ids_nodup text language).of_map
  · exact mem_findings_iff.mpr ⟨site, flag, rfl⟩

/-- The findings are those of the sites where a rule that runs for the language finds fault with a
trimmed piece of the text, each once and in order, and so are the repairs; the notes are those of
the first fifteen sites where a topic is recognised on a trimmed piece, and a note is missing only
when fifteen come before it. -/
theorem reports_exactly (text : String) (language : Language) :
    let review := ofText text language
    ∃ (flagged : List (Site Rule)) (explained : List (Site Topic)),
      Site.Lists Rule.place (Site.Flagged text language) flagged ∧
      review.findings = flagged.map Site.finding ∧
      (∀ rule ∈ Rule.all, ∀ number, rule.findingAt number ∈ review.findings ↔
        ∃ line, Site.Flagged text language ⟨number, line, rule⟩) ∧
      (∀ site : Site Rule, site.Flagged text language →
        review.findings.count site.finding = 1) ∧
      review.repairs = flagged.filterMap Site.repair? ∧
      (∀ (site : Site Rule) (template : RepairTemplate), site.Flagged text language →
        site.entry.template = some template →
        ∃ repair ∈ review.repairs, repair.findingId = site.finding.id ∧
          repair.code = String.ofList (template.replacement site.line)) ∧
      Site.Lists Topic.place (Site.Explained text) explained ∧
      review.notes = (explained.take 15).map Site.note ∧
      (∀ site ∈ explained, site.note.code = String.ofList site.line) ∧
      (∀ site : Site Topic, site.Explained text → site.note ∉ review.notes →
        review.notes.length = 15 ∧
          ∀ kept ∈ explained.take 15, kept.Before Topic.place site) := by
  dsimp only
  refine ⟨Site.flagged (numberedLines text) language, Site.explained (numberedLines text),
    Site.flagged_lists text language, findings_ofText text language, ?_,
      fun _ flag => count_finding flag,
    repairs_ofText text language, ?_, Site.explained_lists text, notes_ofText text language,
    fun _ _ => rfl, ?_⟩
  · intro rule listed number
    exact findingAt_mem_iff text language listed number
  · intro site template flag has
    have repaired : site.repair? = some (site.entry.repairAt template site.number site.line) := by
      rw [Site.repair?, has, Option.map_some]
    exact ⟨_, mem_repairs_iff.mpr ⟨site, flag, repaired⟩, rfl, rfl⟩
  · intro site explained missing
    rw [notes_ofText] at missing ⊢
    have absent : site ∉ (Site.explained (numberedLines text)).take maxNotes := by
      intro kept
      exact missing (List.mem_map_of_mem kept)
    rw [List.length_map]
    exact Site.before_of_not_mem_take (Site.explained_lists text) maxNotes explained absent

theorem reports_exactly_on_declaration :
    Site.Flagged "\n var a;" .javascript ⟨2, "var a;".toList, Rule.varKeyword⟩ ∧
      Rule.varKeyword.findingAt 2 ∈ (ofText "\n var a;" .javascript).findings ∧
      ∃ repair ∈ (ofText "\n var a;" .javascript).repairs,
        repair.findingId = "bug-2-var" ∧ repair.code = "const a;" := by
  have listed : Rule.varKeyword ∈ Rule.all := List.mem_cons_self
  have on : Site.IsOn "\n var a;" (⟨2, "var a;".toList, Rule.varKeyword⟩ : Site Rule) :=
    ⟨1, " var a;".toList, by decide, by decide, by decide⟩
  have flag : Site.Flagged "\n var a;" .javascript ⟨2, "var a;".toList, Rule.varKeyword⟩ :=
    ⟨on, listed, by decide, by decide⟩
  obtain ⟨_, _, -, -, found, -, -, repaired, -⟩ := reports_exactly "\n var a;" .javascript
  obtain ⟨repair, member, refers, code⟩ := repaired _ _ flag rfl
  exact ⟨flag, (found _ listed 2).mpr ⟨_, flag⟩, repair, member, refers, code⟩

end Review

end LineReview
