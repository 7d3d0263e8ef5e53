import LineReview.CommandLine.Invocation
import LineReview.Proofs.CommandLine.Reading

set_option autoImplicit false

namespace LineReview.CommandLine

section Told

/-- What is told of parameters, less those of which nothing is told. -/
def told (fields : List (Parameter × Option String)) : List (Parameter × String) :=
  fields.filterMap fun field => field.2.map (Prod.mk field.1)

/-- What is told of a flag: nothing further, or nothing at all. -/
def flagged (given : Bool) : Option String :=
  if given then some "" else none

theorem isSome_flagged (given : Bool) : (flagged given).isSome = given := by
  cases given <;> rfl

variable {fields : List (Parameter × Option String)} {entries : List (Parameter × String)}
  {parameter : Parameter}

theorem mem_told {entry : Parameter × String} :
    entry ∈ told fields ↔ (entry.1, some entry.2) ∈ fields := by
  obtain ⟨parameter, text⟩ := entry
  simp [told]

theorem map_fst_byName (entries : List (Parameter × String)) :
    (entries.map byName).map Prod.fst = entries.map fun entry => entry.1.name :=
  List.map_map

/-- Whether two entries have one name does not depend on their order. -/
theorem nodup_byName_iff {others : List (Parameter × String)} (order : entries.Perm others) :
    ((entries.map byName).map Prod.fst).Nodup ↔ (others.map fun entry => entry.1.name).Nodup := by
  rw [map_fst_byName]
  exact (order.map _).nodup_iff

/-- Fields of distinct names tell entries of distinct names. -/
theorem told_distinct (distinct : (fields.map fun field => field.1.name).Nodup) :
    ((told fields).map fun entry => entry.1.name).Nodup := by
  refine distinct.sublist ?_
  clear distinct
  induction fields with
  | nil => exact List.nil_sublist _
  | cons field fields ih =>
      obtain ⟨parameter, _ | text⟩ := field
      · exact ih.cons parameter.name
      · exact ih.cons_cons parameter.name

theorem lookup_eq_some_iff_mem {entries : List (String × String)}
    (distinct : (entries.map Prod.fst).Nodup) {name text : String} :
    entries.lookup name = some text ↔ (name, text) ∈ entries := by
  constructor
  · intro found
    obtain ⟨before, after, split, -⟩ := List.lookup_eq_some_iff.mp found
    rw [split]
    exact List.mem_append_right _ List.mem_cons_self
  · intro listed
    cases found : entries.lookup name with
    | none => simpa using List.lookup_eq_none_iff.mp found _ listed
    | some other =>
        obtain ⟨before, after, split, -⟩ := List.lookup_eq_some_iff.mp found
        have otherListed : (name, other) ∈ entries :=
          split ▸ List.mem_append_right _ List.mem_cons_self
        have same := List.inj_on_of_nodup_map distinct otherListed listed rfl
        rw [(Prod.mk.inj same).2]

/-- Whatever the order of the entries, a parameter is found with what is told of it. -/
theorem lookup_told (distinct : (fields.map fun field => field.1.name).Nodup)
    (order : entries.Perm (told fields)) {value : Option String}
    (listed : (parameter, value) ∈ fields) :
    (entries.map byName).lookup parameter.name = value := by
  have single := (nodup_byName_iff order).mpr (told_distinct distinct)
  ext text
  rw [lookup_eq_some_iff_mem single, List.mem_map]
  constructor
  · rintro ⟨entry, met, same⟩
    obtain ⟨name, rfl⟩ := Prod.mk.inj same
    have field := mem_told.mp (order.mem_iff.mp met)
    exact (Prod.mk.inj (List.inj_on_of_nodup_map distinct listed field name.symm)).2
  · rintro rfl
    exact ⟨(parameter, text), order.mem_iff.mpr (mem_told.mpr listed), rfl⟩

end Told

namespace Verb

theorem ofName?_of_mem_names {verb : Verb} {word : String} (listed : word ∈ verb.names) :
    Verb.ofName? word = some verb ∧ word ≠ helpName := by
  cases verb with
  | review => rcases List.mem_pair.mp listed with rfl | rfl <;> decide
  | explain | catalogue | languages | start =>
      obtain rfl := List.mem_singleton.mp listed
      decide

theorem clear (verb : Verb) : verb.grammar.Clear := by
  cases verb <;> exact ⟨by decide, by decide⟩

end Verb

/-- A command with what is told of each of its parameters. -/
inductive Request where
  | review (path language config format failOn : Option String)
  | explain (path language config : Option String)
  | catalogue (search : Option String) (json : Bool)
  | languages
  | start (output : Option String)

namespace Request

def words : Request → List String
  | .review .. => ["analyze", "check"]
  | .explain .. => ["explain"]
  | .catalogue .. => ["rules"]
  | .languages => ["languages"]
  | .start .. => ["init"]

def sourceFields (path language config : Option String) : List (Parameter × Option String) := [
  (ownPath, path),
  ({ name := "language", letter := some 'l', role := .text }, language),
  ({ name := "config", letter := some 'c', role := .path }, config)]

def fields : Request → List (Parameter × Option String)
  | .review path language config format failOn => sourceFields path language config ++ [
      ({ name := "format", letter := some 'f', role := .text }, format),
      ({ name := "fail-on", letter := none, role := .text }, failOn)]
  | .explain path language config => sourceFields path language config
  | .catalogue search json => [
      ({ name := "search", letter := some 's', role := .text }, search),
      ({ name := "json", letter := none, role := .flag }, flagged json)]
  | .languages => []
  | .start output => [({ name := "output", letter := some 'o', role := .path }, output)]

/-- The fields of the request and whether the log is wanted in full. -/
def allFields (request : Request) (loud : Bool) : List (Parameter × Option String) :=
  request.fields ++ [({ name := "verbose", letter := some 'v', role := .flag }, flagged loud)]

def command : Request → Command
  | .review path language config format failOn =>
      .review { source := { path := path.getD "-", language, config }, format, failOn }
  | .explain path language config => .explain { path := path.getD "-", language, config }
  | .catalogue search json => .catalogue { search, json }
  | .languages => .languages
  | .start output => .start (output.getD "decode.yaml")

def verb : Request → Verb
  | .review .. => .review
  | .explain .. => .explain
  | .catalogue .. => .catalogue
  | .languages => .languages
  | .start .. => .start

variable (request : Request)

theorem names_verb : request.verb.names = request.words := by
  cases request <;> rfl

theorem allFields_distinct (loud : Bool) :
    ((request.allFields loud).map fun field => field.1.name).Nodup := by
  cases request <;> simp [allFields, fields, sourceFields, ownPath]

theorem has_of_mem_allFields {loud : Bool} {field : Parameter × Option String}
    (listed : field ∈ request.allFields loud) : request.verb.grammar.Has field.1 := by
  have all : ∀ parameter ∈ (request.allFields loud).map Prod.fst,
      request.verb.grammar.Has parameter := by
    cases request <;> simp [allFields, fields, sourceFields, Grammar.Has, verb, Verb.grammar,
      commonParameters, sourceParameters, verboseParameter]
  exact all field.1 (List.mem_map_of_mem listed)

/-- The command is made of what is found of its parameters. -/
theorem command_verb {given : List (String × String)}
    (found : ∀ field ∈ request.fields, given.lookup field.1.name = field.2) :
    request.verb.command given = request.command := by
  cases request <;>
    simp_all [fields, sourceFields, command, verb, Verb.command, sourceOptions, isSome_flagged,
      Command.defaultOutput]

end Request

/-- A command line: the parameter for a full log under a label, if it stands before the word for the
command, and the groups after that word. -/
def commandLine (lead : Option Label) (word : String) (groups : List Group) : List String :=
  lead.toList.map (Label.argument verboseParameter) ++ word :: groups.flatMap Group.arguments

/-- The groups tell the entries, in whatever order, and each of them is written as it should be. -/
structure Arranges (groups : List Group) (entries : List (Parameter × String)) : Prop where
  sound : ∀ group ∈ groups, group.Sound
  order : (groups.map Group.entry).Perm entries

section Parse

variable {verb : Verb} {word : String} {lead : Option Label} {groups : List Group}
  {entries : List (Parameter × String)}

/-- The parameter for a full log is read before the word for the command, and what stands after it
belongs to the command. -/
theorem parse_commandLine (listed : word ∈ verb.names)
    (named : ∀ label ∈ lead, label.Names verboseParameter) :
    parse (commandLine lead word groups) =
      (read verb.grammar (groups.flatMap Group.arguments)).map fun given => {
        verbose := lead.isSome || (given.lookup verboseParameter.name).isSome
        command := verb.command given } := by
  obtain ⟨found, other⟩ := Verb.ofName?_of_mem_names listed
  have afterLead (before : Reading) : parseFrom before (word :: groups.flatMap Group.arguments) =
      invocation before verb (groups.flatMap Group.arguments) := by
    rw [parseFrom.eq_def]
    dsimp only
    rw [if_neg (by simpa using other), found]
  rw [parse, commandLine]
  rcases lead with _ | _ | letter
  · exact afterLead {}
  · exact afterLead { given := [("verbose", "")] }
  · obtain rfl : 'v' = letter := Option.some.inj (named _ rfl)
    exact afterLead { given := [("verbose", "")] }

/-- Groups are read as the entries that they arrange, unless two of these have one name. -/
theorem Arranges.read_eq (arranged : Arranges groups entries)
    (known : ∀ entry ∈ entries, verb.grammar.Has entry.1)
    (once : (entries.map fun entry => entry.1.name).count ownPath.name ≤ 1) :
    read verb.grammar (groups.flatMap Group.arguments) =
      (verdict ((groups.map Group.entry).map byName)).map Reading.given := by
  have names : ((groups.map (byName ∘ Group.entry)).map Prod.fst).Perm
      (entries.map fun entry => entry.1.name) := by
    rw [← List.map_map, map_fst_byName]
    exact arranged.order.map _
  rw [List.map_map]
  refine read_groups verb.clear arranged.sound (fun group listed => ?_) (names.count_eq _ ▸ once)
  exact known _ (arranged.order.mem_iff.mp (List.mem_map_of_mem listed))

section Request

variable {request : Request} {loud : Bool}

theorem has_of_mem_told {entry : Parameter × String}
    (met : entry ∈ told (request.allFields loud)) : request.verb.grammar.Has entry.1 :=
  request.has_of_mem_allFields (mem_told.mp met)

/-- The path by itself is told at most once. -/
theorem count_ownPath_told :
    ((told (request.allFields loud)).map fun entry => entry.1.name).count ownPath.name ≤ 1 :=
  List.nodup_iff_count_le_one.mp (told_distinct (request.allFields_distinct loud)) _

/-- What is told once is what comes out. -/
theorem Arranges.parse_eq_ok (arranged : Arranges groups (told (request.allFields loud)))
    (listed : word ∈ request.verb.names)
    (named : ∀ label ∈ lead, label.Names verboseParameter) :
    parse (commandLine lead word groups) =
      .ok { verbose := lead.isSome || loud, command := request.command } := by
  have distinct := request.allFields_distinct loud
  have names := (nodup_byName_iff arranged.order).mpr (told_distinct distinct)
  have found (field : Parameter × Option String) (met : field ∈ request.allFields loud) :
      ((groups.map Group.entry).map byName).lookup field.1.name = field.2 :=
    lookup_told distinct arranged.order met
  have command := request.command_verb fun field met => found field (List.mem_append_left _ met)
  have verbose : ((groups.map Group.entry).map byName).lookup verboseParameter.name =
      flagged loud :=
    found (verboseParameter, flagged loud) (List.mem_append_right _ List.mem_cons_self)
  rw [parse_commandLine listed named,
    arranged.read_eq (fun _ => has_of_mem_told) count_ownPath_told, verdict_of_nodup names]
  simp only [Except.map, command, verbose, isSome_flagged]

/-- What is told twice is refused, unless it is the path by itself, of which a second one is not
known at all. -/
theorem Arranges.parse_eq_givenTwice {parameter : Parameter} {first second : String}
    (again : Arranges groups ((parameter, second) :: told (request.allFields loud)))
    (foreign : parameter ≠ ownPath) (field : (parameter, some first) ∈ request.allFields loud)
    (listed : word ∈ request.verb.names)
    (named : ∀ label ∈ lead, label.Names verboseParameter) :
    parse (commandLine lead word groups) = .error .givenTwice := by
  have firstTold : (parameter, first) ∈ told (request.allFields loud) := mem_told.mpr field
  have has : request.verb.grammar.Has parameter := has_of_mem_told firstTold
  have dashed : parameter ∈ request.verb.grammar.parameters :=
    has.resolve_right fun own => foreign own.1
  have filled : parameter.name ≠ ownPath.name := (request.verb.clear.plain parameter dashed).1
  have known : ∀ entry ∈ (parameter, second) :: told (request.allFields loud),
      request.verb.grammar.Has entry.1 :=
    List.forall_mem_cons.mpr ⟨has, fun _ => has_of_mem_told⟩
  have single : (((parameter, second) :: told (request.allFields loud)).map
      fun entry => entry.1.name).count ownPath.name ≤ 1 := by
    rw [List.map_cons, List.count_cons_of_ne filled]
    exact count_ownPath_told
  have twice : ¬(((groups.map Group.entry).map byName).map Prod.fst).Nodup := by
    rw [nodup_byName_iff again.order, List.map_cons, List.nodup_cons]
    exact fun once => once.1 (List.mem_map.mpr ⟨(parameter, first), firstTold, rfl⟩)
  rw [parse_commandLine listed named, again.read_eq known single, verdict_of_twice twice]
  rfl

end Request

/-- However a request is ordered and spelled, it is what the command line comes to; and if one of
its parameters with dashes is told once more, wherever that stands, the command line is refused. -/
theorem parse_any_order (request : Request) (listed : word ∈ request.words)
    (named : ∀ label ∈ lead, label.Names verboseParameter) (loud : Bool) (groups : List Group) :
    (Arranges groups (told (request.allFields loud)) →
      parse (commandLine lead word groups) =
        .ok { verbose := lead.isSome || loud, command := request.command }) ∧
    ∀ (parameter : Parameter) (first second : String), parameter ≠ ownPath →
      (parameter, some first) ∈ request.allFields loud →
      Arranges groups ((parameter, second) :: told (request.allFields loud)) →
      parse (commandLine lead word groups) = .error .givenTwice := by
  have verbListed : word ∈ request.verb.names := request.names_verb ▸ listed
  constructor
  · intro arranged
    exact arranged.parse_eq_ok verbListed named
  · intro parameter first second foreign field again
    exact again.parse_eq_givenTwice foreign field verbListed named

theorem parse_any_order_of_check :
    parse ["-v", "check", "--fail-on=good", "-", "-l", "rust"] =
        .ok { verbose := true, command := .review { source := { language := some "rust" },
                                                    failOn := some "good" } } ∧
      parse ["analyze", "--language", "go", "a.js", "--language=c++"] = .error .givenTwice := by
  constructor
  · have listed : "check" ∈ (Request.review (some "-") (some "rust") none none
        (some "good")).words := by decide
    have named : ∀ label ∈ some (Label.short 'v'), label.Names verboseParameter := by decide
    exact (parse_any_order _ listed named false
      [.joined { name := "fail-on", letter := none, role := .text } "good", .path "-",
        .apart { name := "language", letter := some 'l', role := .text } (.short 'l') "rust"]).1
      ⟨by decide, by decide⟩
  · have listed : "analyze" ∈ (Request.review (some "a.js") (some "go") none none none).words :=
      by decide
    have named : ∀ label ∈ (none : Option Label), label.Names verboseParameter := nofun
    exact (parse_any_order _ listed named false
      [.apart { name := "language", letter := some 'l', role := .text } .long "go", .path "a.js",
        .joined { name := "language", letter := some 'l', role := .text } "c++"]).2
      { name := "language", letter := some 'l', role := .text } "go" "c++" (by decide) (by decide)
        ⟨by decide, by decide⟩

end Parse

end LineReview.CommandLine
