import LineReview.Json.Reader
import LineReview.Yaml.Basic

set_option autoImplicit false

namespace LineReview.Yaml

/-- The text up to the closing single quote, and what follows the quote. -/
def readSingle : List Char → Option (List Char × List Char)
  | [] => none
  | '\'' :: '\'' :: rest => (readSingle rest).map fun (content, after) => ('\'' :: content, after)
  | char :: rest =>
    if char == '\'' then some ([], rest)
    else if char == '\n' then none
    else (readSingle rest).map fun (content, after) => (char :: content, after)

def escaped? : Char → Option Char
  | '0' => some '\x00'
  | 'a' => some '\x07'
  | 'b' => some '\x08'
  | 't' => some '\t'
  | '\t' => some '\t'
  | 'n' => some '\n'
  | 'v' => some '\x0b'
  | 'f' => some '\x0c'
  | 'r' => some '\r'
  | 'e' => some '\x1b'
  | ' ' => some ' '
  | '"' => some '"'
  | '/' => some '/'
  | '\\' => some '\\'
  | 'N' => some '\u0085'
  | '_' => some '\u00a0'
  | 'L' => some '\u2028'
  | 'P' => some '\u2029'
  | _ => none

/-- The number of hexadecimal digits that a letter after a backslash asks for. -/
def codeWidth : Char → Nat
  | 'x' => 2
  | 'u' => 4
  | 'U' => 8
  | _ => 0

def codePoint? (digits : List Char) : Option Char := do
  let code := (← digits.mapM Json.hexValue?).foldl (fun total digit => total * 16 + digit) 0
  if code.isValidChar then some (Char.ofNat code) else none

/-- The state in which the text between double quotes is read. -/
inductive Escape where
  /-- Outside of escapes. -/
  | none
  /-- After a backslash. -/
  | opened
  /-- Inside a code point: the digits read, last first, and how many are still to come. -/
  | code (digits : List Char) (missing : Nat)

def readDouble : Escape → List Char → Option (List Char × List Char)
  | _, [] => none
  | .none, char :: rest =>
    if char == '"' then some ([], rest)
    else if char == '\n' then Option.none
    else if char == '\\' then readDouble .opened rest
    else (readDouble .none rest).map fun (content, after) => (char :: content, after)
  | .opened, letter :: rest =>
    match escaped? letter, codeWidth letter with
    | some char, _ => (readDouble .none rest).map fun (content, after) => (char :: content, after)
    | Option.none, 0 => Option.none
    | Option.none, width => readDouble (.code [] width) rest
  | .code digits missing, digit :: rest =>
    if missing ≤ 1 then do
      let char ← codePoint? (digit :: digits).reverse
      let (content, after) ← readDouble .none rest
      return (char :: content, after)
    else readDouble (.code (digit :: digits) (missing - 1)) rest

def readQuoted (text : List Char) : Option (Yaml × List Char) :=
  match text with
  | '"' :: rest => (readDouble .none rest).map fun (content, after) =>
      (.quoted (String.ofList content), after)
  | '\'' :: rest => (readSingle rest).map fun (content, after) =>
      (.quoted (String.ofList content), after)
  | _ => none

def startsQuoted : List Char → Bool
  | '"' :: _ | '\'' :: _ => true
  | _ => false

end LineReview.Yaml
