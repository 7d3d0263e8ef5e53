import LineReview.Command.Basic
import LineReview.CommandLine.Arguments

set_option autoImplicit false

namespace LineReview.CommandLine

/-- The parameter for a full log, which may stand before or after the name of the command. -/
def verboseParameter : Parameter := { name := "verbose", letter := some 'v', role := .flag }

def commonParameters : List Parameter := [
  verboseParameter,
  { name := "help", letter := some 'h', role := .help }]

def programGrammar : Grammar where
  parameters := commonParameters ++ [{ name := "version", letter := some 'V', role := .version }]
  takesPath := false

def sourceParameters : List Parameter := [
  { name := "language", letter := some 'l', role := .text },
  { name := "config", letter := some 'c', role := .path }]

inductive Verb where
  | review
  | explain
  | catalogue
  | languages
  | start
  deriving DecidableEq

namespace Verb

/-- Every command, in the order in which help lists them. -/
def all : List Verb := [.review, .explain, .catalogue, .languages, .start]

def names : Verb → List String
  | .review => ["analyze", "check"]
  | .explain => ["explain"]
  | .catalogue => ["rules"]
  | .languages => ["languages"]
  | .start => ["init"]

def ofName? (name : String) : Option Verb :=
  all.find? fun verb => verb.names.contains name

def grammar : Verb → Grammar
  | .review => {
      parameters := commonParameters ++ sourceParameters ++ [
        { name := "format", letter := some 'f', role := .text },
        { name := "fail-on", letter := none, role := .text }]
      takesPath := true }
  | .explain => { parameters := commonParameters ++ sourceParameters, takesPath := true }
  | .catalogue => {
      parameters := commonParameters ++ [
        { name := "search", letter := some 's', role := .text },
        { name := "json", letter := none, role := .flag }]
      takesPath := false }
  | .languages => { parameters := commonParameters, takesPath := false }
  | .start => {
      parameters := commonParameters ++ [{ name := "output", letter := some 'o', role := .path }]
      takesPath := false }

end Verb

def sourceOptions (given : List (String × String)) : SourceOptions where
  path := (given.lookup ownPath.name).getD "-"
  language := given.lookup "language"
  config := given.lookup "config"

def Verb.command (verb : Verb) (given : List (String × String)) : Command :=
  match verb with
  | .review => .review {
      source := sourceOptions given
      format := given.lookup "format"
      failOn := given.lookup "fail-on" }
  | .explain => .explain (sourceOptions given)
  | .catalogue => .catalogue {
      search := given.lookup "search"
      json := (given.lookup "json").isSome }
  | .languages => .languages
  | .start => .start ((given.lookup "output").getD Command.defaultOutput)

def helpName : String := "help"

/-- Answers a request for help on what the words name: the program, a command, or help itself. -/
def helpOn : List String → UsageError
  | [] => .help
  | [word] => if word == helpName || (Verb.ofName? word).isSome then .help else .unknownCommand
  | _ => .unknownCommand

def namesCommand (word : String) : Bool :=
  word == helpName || (Verb.ofName? word).isSome

/-- The invocation that a command with its arguments makes, once the parameters before it have been
read. -/
def invocation (before : Reading) (verb : Verb) (arguments : List String) :
    Except UsageError Invocation := do
  let given ← read verb.grammar arguments
  return {
    verbose := before.has verboseParameter.name || (given.lookup verboseParameter.name).isSome
    command := verb.command given }

/-- What is wrong with a command line that names no command. -/
def withoutCommand (before : Reading) : UsageError :=
  if before.given.isEmpty then .nothingGiven else .missingCommand

/-- Reads a command line on from the parameters before the command. -/
def parseFrom (before : Reading) : List String → Except UsageError Invocation
  | [] => .error (withoutCommand before)
  | argument :: rest =>
    if argument == helpName then .error (helpOn rest)
    else match Verb.ofName? argument with
      | some verb => invocation before verb rest
      | none =>
        match Form.ofArgument argument with
        | .separator =>
          match rest with
          | [] => .error (withoutCommand before)
          | word :: _ => .error (if namesCommand word then .unknownArgument else .unknownCommand)
        | .long name value => do parseFrom (← before.meetLong programGrammar name value) rest
        | .short letters => do parseFrom (← before.meetLetters programGrammar letters) rest
        | .word => .error .unknownCommand

def parse (arguments : List String) : Except UsageError Invocation :=
  parseFrom {} arguments

end LineReview.CommandLine
