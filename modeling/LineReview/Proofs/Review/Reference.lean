import LineReview.Proofs.Identifier
import LineReview.Proofs.Review.Site
import LineReview.Report.Panel
import Mathlib.Data.List.Nodup

set_option autoImplicit false

namespace LineReview

def Finding.source? (finding : Finding) : Option Rule :=
  finding.rule?.bind Rule.find?

def Finding.isRepairable (finding : Finding) : Bool :=
  finding.source?.any fun rule => rule.template.isSome

theorem Rule.find?_id {rule : Rule} (listed : rule ∈ all) : find? rule.id = some rule := by
  simp only [all, List.mem_cons, List.not_mem_nil, or_false] at listed
  rcases listed with rfl | rfl | rfl | rfl | rfl | rfl | rfl | rfl | rfl | rfl <;> rfl

theorem Rule.source?_findingAt {rule : Rule} (listed : rule ∈ all) (number : Nat) :
    (rule.findingAt number).source? = some rule := by
  have named : (rule.findingAt number).rule? = some rule.id := Finding.rule?_of_id rfl
  rw [Finding.source?, named, Option.bind_some, find?_id listed]

namespace Site

/-- Sites in order have distinct identifiers, as the place of an entry depends on nothing but its
name. -/
theorem Before.spell_ne {Entry : Type} {place : Entry → Nat} {name : Entry → String}
    {first second : Site Entry} (before : first.Before place second)
    (named : name first.entry = name second.entry → place first.entry = place second.entry)
    (opening : String) :
    Identifier.spell opening first.number (name first.entry) ≠
      Identifier.spell opening second.number (name second.entry) := by
  intro same
  obtain ⟨number, id⟩ := Identifier.spell_inj.mp same
  have place := named id
  unfold Before at before
  omega

theorem Before.id_ne {first second : Site Rule} (before : first.Before Rule.place second) :
    first.finding.id ≠ second.finding.id := by
  apply before.spell_ne
  intro same
  unfold Rule.place
  rw [same]

theorem Before.note_id_ne {first second : Site Topic} (before : first.Before Topic.place second) :
    first.note.id ≠ second.note.id := by
  apply before.spell_ne
  intro same
  unfold Topic.place
  rw [same]

/-- The number of a site is that of a line of the text. -/
theorem IsOn.bounds {Entry : Type} {text : String} {site : Site Entry} (on : site.IsOn text) :
    1 ≤ site.number ∧ site.number ≤ text.toList.count '\n' + 1 := by
  obtain ⟨index, piece, found, number, -⟩ := on
  have inside : index < (Line.ofText text).length := (List.getElem?_eq_some_iff.mp found).1
  rw [Line.length_ofText] at inside
  omega

theorem source?_finding {text : String} {language : Language} {site : Site Rule}
    (flag : site.Flagged text language) : site.finding.source? = some site.entry :=
  Rule.source?_findingAt flag.2.1 site.number

theorem findingId_of_repair? {site : Site Rule} {repair : Repair}
    (repaired : site.repair? = some repair) : repair.findingId = site.finding.id := by
  obtain ⟨template, -, rfl⟩ := Option.map_eq_some_iff.mp repaired
  rfl

/-- A site has a repair, which refers to its finding, just when its rule has a template. -/
theorem map_findingId_repair? (site : Site Rule) :
    site.repair?.map Repair.findingId =
      if site.entry.template.isSome then some site.finding.id else none := by
  unfold repair?
  cases site.entry.template <;> rfl

end Site

namespace Review

theorem mem_findings_iff {text : String} {language : Language} {finding : Finding} :
    finding ∈ (ofText text language).findings ↔
      ∃ site : Site Rule, site.Flagged text language ∧ site.finding = finding := by
  rw [findings_ofText, List.mem_map]
  simp only [(Site.flagged_lists text language).mem_iff]

theorem mem_repairs_iff {text : String} {language : Language} {repair : Repair} :
    repair ∈ (ofText text language).repairs ↔
      ∃ site : Site Rule, site.Flagged text language ∧ site.repair? = some repair := by
  rw [repairs_ofText, List.mem_filterMap]
  simp only [(Site.flagged_lists text language).mem_iff]

theorem exists_site_of_mem_notes {text : String} {language : Language} {note : Note}
    (member : note ∈ (ofText text language).notes) :
    ∃ site : Site Topic, site.Explained text ∧ site.note = note := by
  rw [notes_ofText, List.mem_map] at member
  obtain ⟨site, kept, same⟩ := member
  exact ⟨site, ((Site.explained_lists text).mem_iff site).mp (List.mem_of_mem_take kept), same⟩

theorem findings_ids_nodup (text : String) (language : Language) :
    ((ofText text language).findings.map Finding.id).Nodup := by
  rw [findings_ofText, List.map_map, List.nodup_iff_pairwise_ne, List.pairwise_map]
  exact (Site.flagged_lists text language).increasing.imp Site.Before.id_ne

theorem notes_ids_nodup (text : String) (language : Language) :
    ((ofText text language).notes.map Note.id).Nodup := by
  rw [notes_ofText, List.map_map, List.nodup_iff_pairwise_ne, List.pairwise_map]
  have kept := (Site.explained_lists text).increasing.sublist (List.take_sublist maxNotes _)
  exact kept.imp Site.Before.note_id_ne

/-- The repairs refer to the repairable findings, in order. -/
theorem repairs_findingIds (text : String) (language : Language) :
    (ofText text language).repairs.map Repair.findingId =
      ((ofText text language).findings.filter Finding.isRepairable).map Finding.id := by
  have listed := (Site.flagged_lists text language).mem_iff
  rw [repairs_ofText, findings_ofText, List.map_filterMap, List.filter_map, List.map_map,
    ← List.filterMap_eq_map, List.filterMap_filter]
  apply List.filterMap_congr
  intro site member
  have source := Site.source?_finding ((listed site).mp member)
  simp only [Site.map_findingId_repair?, Function.comp_apply, Finding.isRepairable, source,
    Option.any_some]

theorem repairs_findingIds_nodup (text : String) (language : Language) :
    ((ofText text language).repairs.map Repair.findingId).Nodup := by
  rw [repairs_findingIds]
  exact (findings_ids_nodup text language).sublist (List.filter_sublist.map _)

theorem repair_id {text : String} {language : Language} {repair : Repair}
    (member : repair ∈ (ofText text language).repairs) :
    repair.id = Repair.idFor repair.findingId := by
  obtain ⟨site, -, repaired⟩ := mem_repairs_iff.mp member
  obtain ⟨template, -, rfl⟩ := Option.map_eq_some_iff.mp repaired
  rfl

theorem repairs_ids_nodup (text : String) (language : Language) :
    ((ofText text language).repairs.map Repair.id).Nodup := by
  have spelled : (ofText text language).repairs.map Repair.id =
      ((ofText text language).repairs.map Repair.findingId).map Repair.idFor := by
    rw [List.map_map]
    exact List.map_congr_left fun repair member => repair_id member
  rw [spelled]
  have injective : Function.Injective Repair.idFor := fun _ _ same => Repair.idFor_inj.mp same
  exact (repairs_findingIds_nodup text language).map injective

/-- Looking up the finding of a site's repair leads back to that site. -/
theorem findingFor?_of_repair? {text : String} {language : Language} {site : Site Rule}
    {repair : Repair} (flag : site.Flagged text language) (repaired : site.repair? = some repair) :
    (ofText text language).findingFor? repair = some site.finding := by
  have member : site.finding ∈ (ofText text language).findings :=
    mem_findings_iff.mpr ⟨site, flag, rfl⟩
  have refers : repair.findingId = site.finding.id := Site.findingId_of_repair? repaired
  unfold findingFor?
  cases found : (ofText text language).findings.find? fun finding =>
    finding.id == repair.findingId with
  | none =>
      have different := List.find?_eq_none.mp found site.finding member
      simp only [refers, beq_self_eq_true, not_true_eq_false] at different
  | some finding =>
      have sameId : finding.id = site.finding.id := by
        simpa only [beq_iff_eq, refers] using List.find?_some found
      rw [List.inj_on_of_nodup_map (findings_ids_nodup text language)
        (List.mem_of_find?_eq_some found) member sameId]

/-- The identifiers of a review are distinct; the repairs refer, in order, to the findings whose
rule has a template, each to the finding of its own site; and every line that is named is one of the
text. -/
theorem referential_integrity (text : String) (language : Language) :
    let review := ofText text language
    (review.findings.map Finding.id).Nodup ∧
    (review.repairs.map Repair.id).Nodup ∧
    (review.notes.map Note.id).Nodup ∧
    review.repairs.map Repair.findingId =
      (review.findings.filter Finding.isRepairable).map Finding.id ∧
    (∀ finding ∈ review.findings, ∃ site : Site Rule, site.Flagged text language ∧
      finding = site.entry.findingAt site.number ∧ finding.source? = some site.entry) ∧
    (∀ repair ∈ review.repairs, (review.findings.map Finding.id).count repair.findingId = 1) ∧
    (∀ finding ∈ review.findings, (review.repairs.map Repair.findingId).count
      finding.id ≤ 1) ∧
    (∀ repair ∈ review.repairs, repair.id = "fix-" ++ repair.findingId) ∧
    (∀ repair ∈ review.repairs, ∃ (site : Site Rule) (template : RepairTemplate),
      site.Flagged text language ∧ site.entry.template = some template ∧
      repair = site.entry.repairAt template site.number site.line ∧
      review.findingFor? repair = some (site.entry.findingAt site.number) ∧
      Panel.repairLine review repair = site.number ∧ Panel.repairLine review repair ≠ 0) ∧
    (∀ finding ∈ review.findings, 1 ≤ finding.line ∧
      finding.line ≤ text.toList.count '\n' + 1) ∧
    (∀ note ∈ review.notes, 1 ≤ note.line ∧ note.line ≤ text.toList.count '\n' + 1) := by
  dsimp only
  refine ⟨findings_ids_nodup text language, repairs_ids_nodup text language,
    notes_ids_nodup text language,
    repairs_findingIds text language, ?_, ?_, ?_,
      fun repair member => repair_id member, ?_, ?_, ?_⟩
  · intro finding member
    obtain ⟨site, flag, rfl⟩ := mem_findings_iff.mp member
    exact ⟨site, flag, rfl, Site.source?_finding flag⟩
  · intro repair member
    obtain ⟨site, flag, repaired⟩ := mem_repairs_iff.mp member
    rw [Site.findingId_of_repair? repaired]
    apply List.count_eq_one_of_mem (findings_ids_nodup text language)
    exact List.mem_map_of_mem (mem_findings_iff.mpr ⟨site, flag, rfl⟩)
  · intro finding _
    exact List.nodup_iff_count_le_one.mp (repairs_findingIds_nodup text language) finding.id
  · intro repair member
    obtain ⟨site, flag, repaired⟩ := mem_repairs_iff.mp member
    obtain ⟨template, has, same⟩ := Option.map_eq_some_iff.mp repaired
    have found := findingFor?_of_repair? flag repaired
    have shown : Panel.repairLine (ofText text language) repair = site.number := by
      rw [Panel.repairLine, found]
      rfl
    have positive := flag.1.bounds.1
    exact ⟨site, template, flag, has, same.symm, found, shown, by omega⟩
  · intro finding member
    obtain ⟨site, flag, rfl⟩ := mem_findings_iff.mp member
    exact flag.1.bounds
  · intro note member
    obtain ⟨site, explained, rfl⟩ := exists_site_of_mem_notes member
    exact explained.1.bounds

theorem referential_integrity_of_declaration :
    ∃ repair ∈ (ofText "\n var a;" .javascript).repairs,
      repair.findingId = "bug-2-var" ∧ repair.id = "fix-bug-2-var" ∧
        Panel.repairLine (ofText "\n var a;" .javascript) repair ≠ 0 := by
  have listed : "bug-2-var" ∈ (ofText "\n var a;" .javascript).repairs.map Repair.findingId := by
    decide
  obtain ⟨repair, member, refers⟩ := List.mem_map.mp listed
  obtain ⟨-, -, -, -, -, -, -, ids, sites, -, -⟩ :=
    referential_integrity "\n var a;" .javascript
  obtain ⟨_, _, -, -, -, -, -, shown⟩ := sites repair member
  have id : repair.id = "fix-bug-2-var" := by
    rw [ids repair member, refers]
    rfl
  exact ⟨repair, member, refers, id, shown⟩

end Review

end LineReview
