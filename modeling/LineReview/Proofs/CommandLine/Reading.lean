import LineReview.Proofs.CommandLine.Group

set_option autoImplicit false

/-! Reading groups of arguments. What has been read stands for a list of entries, of which the last
one may be pending still; a group adds its own entry at the end; and a reading fails exactly when
two of the entries have one name. -/

namespace LineReview.CommandLine

/-- What becomes of entries that have been met: they are settled unless two of them have one
name. -/
def verdict (entries : List (String × String)) : Except UsageError Reading :=
  if (entries.map Prod.fst).Nodup then .ok { given := entries } else .error .givenTwice

theorem verdict_of_nodup {entries : List (String × String)}
    (distinct : (entries.map Prod.fst).Nodup) : verdict entries = .ok { given := entries } :=
  if_pos distinct

theorem verdict_of_twice {entries : List (String × String)}
    (twice : ¬(entries.map Prod.fst).Nodup) : verdict entries = .error .givenTwice :=
  if_neg twice

/-- What is given twice among some entries is given twice among more of them. -/
theorem twice_append {entries : List (String × String)} (twice : ¬(entries.map Prod.fst).Nodup)
    (more : List (String × String)) : ¬((entries ++ more).map Prod.fst).Nodup := by
  rw [List.map_append]
  exact fun distinct => twice (List.Nodup.of_append_left distinct)

namespace Reading

variable {entries : List (String × String)} {parameter : Parameter} {value : String}
  {reading : Reading}

theorem has_iff {name : String} :
    reading.has name = true ↔ name ∈ reading.given.map Prod.fst := by
  rw [has, ← Bool.not_eq_false, Option.isSome_eq_false_iff, Option.isNone_iff_eq_none,
    List.lookup_eq_none_iff]
  simp

/-- Adding a parameter adds its entry, which must not be there before. -/
theorem add_eq_verdict (distinct : (entries.map Prod.fst).Nodup)
    (usable : parameter.role = .path → value ≠ "") :
    ({ given := entries } : Reading).add parameter value =
      verdict (entries ++ [(parameter.name, value)]) := by
  have once : ((entries ++ [(parameter.name, value)]).map Prod.fst).Nodup ↔
      parameter.name ∉ entries.map Prod.fst := by
    rw [List.map_append, List.map_singleton, List.nodup_append_comm, List.singleton_append,
      List.nodup_cons]
    exact and_iff_left distinct
  rw [add]
  by_cases given : parameter.name ∈ entries.map Prod.fst
  · rw [if_pos (has_iff.mpr given), verdict_of_twice fun single => once.mp single given]
  · have filled : ¬(parameter.role == .path && value == "") = true := by simpa using usable
    rw [if_neg (mt has_iff.mp given), if_neg filled, verdict_of_nodup (once.mpr given)]

/-- The reading stands for the entries: they are what it comes to when it is settled, none of them
waits for its value, and the path by itself has been met only if it is among them. -/
structure Holds (reading : Reading) (entries : List (String × String)) : Prop where
  settles : reading.settle = verdict entries
  complete : ∀ parameter, reading.pending ≠ some (parameter, none)
  ownPath : reading.hasOwnPath = true → ownPath.name ∈ entries.map Prod.fst

theorem holds_settled (distinct : (entries.map Prod.fst).Nodup) :
    Holds { given := entries } entries where
  settles := (verdict_of_nodup distinct).symm
  complete := nofun
  ownPath met := by simpa [hasOwnPath, has_iff] using met

theorem holds_pending (distinct : (entries.map Prod.fst).Nodup)
    (usable : parameter.role = .path → value ≠ "") :
    Holds { given := entries, pending := some (parameter, some value) }
      (entries ++ [(parameter.name, value)]) where
  settles := add_eq_verdict distinct usable
  complete := nofun
  ownPath met := by
    rw [hasOwnPath, Bool.or_eq_true, has_iff] at met
    rw [List.map_append, List.mem_append]
    refine met.imp_right fun same => ?_
    have own : parameter = CommandLine.ownPath := by simpa using same
    rw [own]
    exact List.mem_singleton_self _

end Reading

section Step

variable {grammar : Grammar} {reading : Reading} {entries : List (String × String)}
  {parameter : Parameter} {value : String} {rest : List String} {result : Except UsageError Reading}

/-- A parameter that is complete at once is read on with its entry, unless that is the second of its
name. -/
theorem readFrom_complete (holds : reading.Holds entries)
    (usable : parameter.role = .path → value ≠ "")
    (next : ∀ next : Reading, next.Holds (entries ++ [(parameter.name, value)]) →
      readFrom grammar next rest = result)
    (twice : ¬((entries ++ [(parameter.name, value)]).map Prod.fst).Nodup →
      result = .error .givenTwice) :
    ((reading.settle >>= fun settled => settled.add parameter value) >>= fun read =>
      readFrom grammar read rest) =
      result := by
  rw [holds.settles]
  -- The parameter before may have been pending, so that it is only here that it is found to be the
  -- second of its name.
  by_cases distinct : (entries.map Prod.fst).Nodup
  · rw [verdict_of_nodup distinct]
    change (({ given := entries } : Reading).add parameter value >>= _) = result
    rw [Reading.add_eq_verdict distinct usable]
    by_cases once : ((entries ++ [(parameter.name, value)]).map Prod.fst).Nodup
    · rw [verdict_of_nodup once]
      exact next _ (Reading.holds_settled once)
    · rw [verdict_of_twice once, twice once]
      rfl
  · rw [verdict_of_twice distinct, twice (twice_append distinct _)]
    rfl

/-- A parameter that is left pending is read on with its entry; if it is the second of its name,
that is found later. -/
theorem readFrom_pending (holds : reading.Holds entries)
    (usable : parameter.role = .path → value ≠ "")
    (next : ∀ next : Reading, next.Holds (entries ++ [(parameter.name, value)]) →
      readFrom grammar next rest = result)
    (twice : ¬((entries ++ [(parameter.name, value)]).map Prod.fst).Nodup →
      result = .error .givenTwice) :
    (reading.settle >>= fun settled =>
      readFrom grammar { settled with pending := some (parameter, some value) } rest) = result := by
  rw [holds.settles]
  by_cases distinct : (entries.map Prod.fst).Nodup
  · rw [verdict_of_nodup distinct]
    exact next _ (Reading.holds_pending distinct usable)
  · rw [verdict_of_twice distinct, twice (twice_append distinct _)]
    rfl

/-- What the argument with a label comes to. -/
theorem readFrom_label (clear : grammar.Clear) (listed : parameter ∈ grammar.parameters)
    {label : Label} (named : label.Names parameter) (rest : List String) :
    readFrom grammar reading (label.argument parameter :: rest) =
      ((if parameter.role.takesValue then reading.meetValued parameter none
        else reading.meetFlag parameter) >>=
        fun read => readFrom grammar read rest) := by
  obtain ⟨filled, plain, noDash⟩ := clear.plain parameter listed
  cases label with
  | long =>
      rw [Label.argument, readFrom, ofArgument_long filled plain]
      simp only [Reading.meetLong, clear.named? listed]
      rfl
  | short letter =>
      have other : letter ≠ '-' := by
        rintro rfl
        exact noDash named
      rw [Label.argument, readFrom, ofArgument_short other]
      simp only [Reading.meetLetters, clear.lettered? listed named, attached]
      split
      · rfl
      · cases reading.meetFlag parameter <;> rfl

/-- A value is taken by the parameter that waits for it. -/
theorem readFrom_awaited (usable : IsValue value) (given : List (String × String))
    (rest : List String) :
    readFrom grammar { given, pending := some (parameter, none) } (value :: rest) =
      readFrom grammar { given, pending := some (parameter, some value) } rest := by
  rw [readFrom, ofArgument_value (Or.inr usable)]
  rfl

/-- A value that no parameter waits for is the path by itself, if there is none yet. -/
theorem readFrom_path (takesPath : grammar.takesPath = true)
    (usable : value = "-" ∨ IsValue value)
    (complete : ∀ parameter, reading.pending ≠ some (parameter, none))
    (fresh : reading.hasOwnPath = false) (rest : List String) :
    readFrom grammar reading (value :: rest) =
      reading.settle >>= fun settled =>
        readFrom grammar { settled with pending := some (ownPath, some value) } rest := by
  have alone : reading.meetWord grammar value = reading.meetOwnPath grammar value := by
    unfold Reading.meetWord
    split
    · rename_i parameter waiting
      exact absurd waiting (complete parameter)
    · rfl
  have allowed : (grammar.takesPath && !reading.hasOwnPath) = true := by rw [takesPath, fresh]; rfl
  rw [readFrom, ofArgument_value usable]
  dsimp only
  rw [alone, Reading.meetOwnPath, if_pos allowed]
  cases reading.settle <;> rfl

/-- A group is read on with its entry, unless that is the second of its name. -/
theorem readFrom_group (clear : grammar.Clear) {group : Group} (sound : group.Sound)
    (known : grammar.Has group.entry.1) (holds : reading.Holds entries)
    (fresh : group.entry.1 = ownPath → ownPath.name ∉ entries.map Prod.fst)
    (next : ∀ next : Reading, next.Holds (entries ++ [byName group.entry]) →
      readFrom grammar next rest = result)
    (twice : ¬((entries ++ [byName group.entry]).map Prod.fst).Nodup →
      result = .error .givenTwice) :
    readFrom grammar reading (group.arguments ++ rest) = result := by
  cases group with
  | path value =>
      have takesPath : grammar.takesPath = true := by
        rcases known with listed | own
        · exact absurd rfl (clear.plain ownPath listed).1
        · exact own.2
      have unmet : reading.hasOwnPath = false := by
        rw [← Bool.not_eq_true]
        exact mt holds.ownPath (fresh rfl)
      have filled : value ≠ "" := by
        rcases sound with rfl | usable
        · decide
        · exact usable.1
      rw [Group.arguments, List.singleton_append,
        readFrom_path takesPath sound holds.complete unmet]
      exact readFrom_pending holds (fun _ => filled) next twice
  | flag parameter label =>
      obtain ⟨role, named⟩ := sound
      have listed : parameter ∈ grammar.parameters := by
        refine known.resolve_right ?_
        rintro ⟨rfl, -⟩
        cases role
      have usable : parameter.role = .path → "" ≠ "" := by
        rw [role]
        exact nofun
      rw [Group.arguments, List.singleton_append, readFrom_label clear listed named, role]
      have met : reading.meetFlag parameter = reading.settle >>= fun settled =>
          settled.add parameter "" := by
        rw [Reading.meetFlag, role]
      exact met ▸ readFrom_complete holds usable next twice
  | apart parameter label value =>
      obtain ⟨⟨valued, foreign⟩, named, usable⟩ := sound
      have listed : parameter ∈ grammar.parameters := known.resolve_right fun own => foreign own.1
      rw [Group.arguments, List.cons_append, List.singleton_append,
        readFrom_label clear listed named, if_pos valued]
      rw [← readFrom_pending holds (fun _ => usable.1) next twice, Reading.meetValued]
      cases reading.settle with
      | error error => rfl
      | ok settled => exact readFrom_awaited usable settled.given rest
  | joined parameter value =>
      obtain ⟨⟨valued, foreign⟩, usable⟩ := sound
      have listed : parameter ∈ grammar.parameters := known.resolve_right fun own => foreign own.1
      rw [Group.arguments, List.singleton_append, readFrom,
        ofArgument_joined (clear.plain parameter listed).2.1]
      simp only [Reading.meetLong, clear.named? listed, if_pos valued]
      exact readFrom_complete holds (fun _ => usable.1) next twice

end Step

/-- The groups are read as their entries, in the order in which they stand, unless two of them have
one name. -/
theorem readFrom_groups {grammar : Grammar} (clear : grammar.Clear) {groups : List Group}
    (sound : ∀ group ∈ groups, group.Sound)
    (known : ∀ group ∈ groups, grammar.Has group.entry.1) {reading : Reading}
    {entries : List (String × String)} (holds : reading.Holds entries)
    (once :
      ((entries ++ groups.map (byName ∘ Group.entry)).map Prod.fst).count ownPath.name ≤ 1) :
    readFrom grammar reading (groups.flatMap Group.arguments) =
      verdict (entries ++ groups.map (byName ∘ Group.entry)) := by
  -- Each group leaves to the next a reading that holds one entry more, until two of them have one
  -- name.
  induction groups generalizing reading entries with
  | nil =>
      rw [List.flatMap_nil, readFrom, holds.settles, List.map_nil, List.append_nil]
  | cons group groups ih =>
      have split : entries ++ (group :: groups).map (byName ∘ Group.entry) =
          (entries ++ [byName group.entry]) ++ groups.map (byName ∘ Group.entry) := by simp
      rw [split] at once ⊢
      rw [List.flatMap_cons]
      apply readFrom_group clear (sound group List.mem_cons_self)
        (known group List.mem_cons_self) holds
      · intro own met
        have here : 0 < (entries.map Prod.fst).count ownPath.name := List.count_pos_iff.mpr met
        have also : (byName group.entry).1 = ownPath.name := by rw [byName, own]
        simp only [List.map_append, List.map_singleton, List.count_append, also,
          List.count_singleton_self] at once
        omega
      · intro next nextHolds
        exact ih (fun other listed => sound other (List.mem_cons_of_mem _ listed))
          (fun other listed => known other (List.mem_cons_of_mem _ listed)) nextHolds once
      · intro twice
        exact verdict_of_twice (twice_append twice _)

/-- The arguments of a command are read as the entries of their groups, unless two of these have one
name. -/
theorem read_groups {grammar : Grammar} (clear : grammar.Clear) {groups : List Group}
    (sound : ∀ group ∈ groups, group.Sound)
    (known : ∀ group ∈ groups, grammar.Has group.entry.1)
    (once : ((groups.map (byName ∘ Group.entry)).map Prod.fst).count ownPath.name ≤ 1) :
    read grammar (groups.flatMap Group.arguments) =
      (verdict (groups.map (byName ∘ Group.entry))).map Reading.given := by
  have nothing : Reading.Holds {} [] := Reading.holds_settled List.nodup_nil
  rw [read, readFrom_groups clear sound known nothing (by simpa using once), List.nil_append]

end LineReview.CommandLine
