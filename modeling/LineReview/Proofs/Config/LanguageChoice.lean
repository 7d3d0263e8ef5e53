import LineReview.Config.Basic
import LineReview.Proofs.FileSystem.Extension
import LineReview.Proofs.Name

set_option autoImplicit false

namespace LineReview

namespace Language

/-- The extension is one of the language, up to ASCII case. -/
def IsWrittenIn (language : Language) (ext : String) : Prop :=
  ∃ known ∈ language.extensions, Text.SameLetters ext.toList known.toList

theorem extensions_apart :
    ∀ language other, ∀ name ∈ extensions language, name ∈ extensions other →
      language = other := by
  intro language other
  cases language <;> cases other <;> decide

theorem extensions_plain (language : Language) : ∀ known ∈ language.extensions,
    Text.lowerAscii known.toList = known.toList ∧ '.' ∉ known.toList ∧
      '/' ∉ known.toList ∧ known ≠ "" := by
  cases language <;> decide

theorem ofExtension?_eq_some_iff {ext : String} {language : Language} :
    ofExtension? ext = some language ↔ language.IsWrittenIn ext := by
  change all.find? (owns extensions _) = some language ↔ _
  rw [find?_eq_some_iff extensions_apart]
  refine exists_congr fun known => and_congr_right fun listed => ?_
  rw [Text.SameLetters, (language.extensions_plain known listed).1, eq_comm]

/-- The extension of a language has neither a dot nor a separator in it, and there is something in
it. -/
theorem IsWrittenIn.plain {language : Language} {ext : String}
    (written : language.IsWrittenIn ext) :
    '.' ∉ ext.toList ∧ '/' ∉ ext.toList ∧ ext ≠ "" := by
  obtain ⟨known, listed, same⟩ := written
  obtain ⟨lowered, noDot, noSlash, filled⟩ := language.extensions_plain known listed
  rw [Text.SameLetters, lowered] at same
  have kept {char : Char} (settled : char.toLower = char)
      (member : char ∈ ext.toList) : char ∈ known.toList := by
    rw [← same, ← settled]
    exact List.mem_map_of_mem member
  refine ⟨fun dot => noDot (kept rfl dot), fun slash => noSlash (kept rfl slash), ?_⟩
  rintro rfl
  exact filled (String.toList_eq_nil_iff.mp same.symm)

end Language

namespace Config

variable {config : Config} {path : String}

/-- What the settings say of the language, with JavaScript where they say nothing. -/
inductive Fallback (config : Config) : Except String Language → Prop where
  | unset (nothing : config.language = none) : Fallback config (.ok .javascript)
  | known {name : String} {language : Language} (told : config.language = some name)
      (found : Language.parse? name = some language) : Fallback config (.ok language)
  | unknown {name : String} (told : config.language = some name)
      (missing : Language.parse? name = none) :
      Fallback config (.error name)

theorem languageFor_of_extension {ext : String} {language : Language}
    (found : Path.extension? path = some ext) (written : language.IsWrittenIn ext) :
    config.languageFor none path = .ok language := by
  rw [languageFor, found, Option.bind_some, Language.ofExtension?_eq_some_iff.mpr written]

theorem languageFor_of_isLast {name ext : String} {language : Language}
    (last : Path.IsLast path name) (extended : Path.HasExtension name ext)
    (written : language.IsWrittenIn ext) :
    config.languageFor none path = .ok language := by
  refine languageFor_of_extension
    (Path.extension?_eq_some_iff.mpr ⟨name, ⟨last, ?_⟩, extended⟩) written
  rintro rfl
  -- What follows the last dot of the name of the folder above is empty.
  have same := (Path.hasExtension_iff.mp extended).symm.trans
    (rfl : Path.suffix? "..".toList = some [])
  exact written.plain.2.2 (String.toList_eq_nil_iff.mp (Option.some.inj same))

/-- Only where the last component of the path has no extension of a language do the settings
decide. -/
theorem fallback_languageFor
    (unwritten : ∀ (name ext : String) (language : Language),
      Path.IsLast path name → Path.HasExtension name ext → ¬language.IsWrittenIn ext) :
    Fallback config (config.languageFor none path) := by
  have nothing : (Path.extension? path).bind Language.ofExtension? = none := by
    rw [Option.bind_eq_none_iff]
    intro ext found
    obtain ⟨name, ⟨last, -⟩, extended⟩ := Path.extension?_eq_some_iff.mp found
    cases known : Language.ofExtension? ext with
    | none => rfl
    | some language =>
        exact absurd (Language.ofExtension?_eq_some_iff.mp known)
          (unwritten name ext language last extended)
  rw [languageFor, nothing, defaultLanguage]
  cases told : config.language with
  | none => exact .unset told
  | some name =>
      cases found : Language.parse? name with
      | none =>
          simp only [found]
          exact .unknown told found
      | some language =>
          simp only [found]
          exact .known told found

/-- A name asked for decides alone: it names the language or is refused, whatever the settings and
the path. Without one, the extension of the last component decides, whatever stands before its last
dot, folders included, and whatever the settings say. If the last component has no extension, having
no dot but perhaps a first one, or one of no language, the settings decide. -/
theorem languageFor_precedence :
    (∀ (config : Config) (name path : String),
      (∀ language, Language.parse? name = some language →
        config.languageFor (some name) path = .ok language) ∧
      (Language.parse? name = none → config.languageFor (some name) path = .error name) ∧
      ∀ (other : Config) (elsewhere : String),
        other.languageFor (some name) elsewhere = config.languageFor (some name) path) ∧
    (∀ (config : Config) (stem ext : String) (language : Language),
      stem ≠ "" → '/' ∉ stem.toList →
      language.IsWrittenIn ext →
      config.languageFor none (stem ++ "." ++ ext) = .ok language ∧
      ∀ folder : String, config.languageFor none (folder ++ "/" ++ (stem ++ "." ++ ext)) =
        .ok language) ∧
    (∀ (config : Config) (path name ext : String) (language : Language), Path.IsLast path name →
      Path.HasExtension name ext → language.IsWrittenIn ext →
        config.languageFor none path = .ok language) ∧
    (∀ (config : Config) (path : String),
      (∀ (name ext : String) (language : Language),
        Path.IsLast path name → Path.HasExtension name ext →
        ¬language.IsWrittenIn ext) →
      Fallback config (config.languageFor none path)) ∧
    ∀ (config : Config) (path name : String),
      Path.IsLast path name → '.' ∉ name.toList.tail →
      Fallback config (config.languageFor none path) := by
  refine ⟨?_, ?_, fun _ _ _ _ _ => languageFor_of_isLast, fun _ _ => fallback_languageFor, ?_⟩
  · intro config name path
    refine ⟨fun language found => ?_, fun missing => ?_, fun _ _ => rfl⟩
    · rw [languageFor, found]
    · rw [languageFor, missing]
  · intro config stem ext language filled unbroken written
    obtain ⟨noDot, noSlash, extFilled⟩ := written.plain
    have extended : Path.HasExtension (stem ++ "." ++ ext) ext := ⟨stem, filled, noDot, rfl⟩
    have whole : '/' ∉ (stem ++ "." ++ ext).toList := by simp [unbroken, noSlash]
    exact ⟨languageFor_of_isLast (Path.isLast_self whole extended.solid) extended written,
      fun folder => languageFor_of_isLast (Path.isLast_inFolder whole extended.solid folder)
        extended written⟩
  · intro config path name last plain
    refine fallback_languageFor fun other ext language otherLast extended _ => ?_
    rw [otherLast.unique last] at extended
    exact plain (Path.exists_hasExtension_iff.mp ⟨ext, extended⟩)

/-- Of two hidden files in a folder with a dot, the one with a second dot has an extension and the
other one has none. -/
theorem languageFor_precedence_of_hidden :
    Language.typescript.IsWrittenIn "TSX" ∧
    ({ language := some "cobol" } : Config).languageFor none
      ("src.d" ++ "/" ++ (".a" ++ "." ++ "TSX")) = .ok .typescript ∧
    Path.IsLast "src.d/.js" ".js" ∧
    Fallback { language := some "cobol" }
      (({ language := some "cobol" } : Config).languageFor none "src.d/.js") := by
  have written : Language.typescript.IsWrittenIn "TSX" := ⟨"tsx", by decide, rfl⟩
  have last : Path.IsLast "src.d/.js" ".js" := ⟨["src.d"], [], by decide, by decide, nofun⟩
  obtain ⟨-, extended, -, -, plain⟩ := languageFor_precedence
  exact ⟨written, (extended _ ".a" "TSX" .typescript (by decide) (by decide) written).2 "src.d",
    last, plain _ "src.d/.js" ".js" last (by decide)⟩

end Config

end LineReview
