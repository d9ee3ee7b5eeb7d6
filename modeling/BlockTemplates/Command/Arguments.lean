import BlockTemplates.Command
import BlockTemplates.Text.Search

/-! The command line that arguments spell. Arguments are read from left to right. A switch that
takes a value has it in the same argument or in the next one; the value is looked at only when the
next argument is read, and so is a word. -/

namespace BlockTemplates

inductive Switch where
  | path
  | verbose
  | noColor
  | minified
  | watch
  | templates
  | bundle
  | data
  | help
  | version
  deriving Repr, DecidableEq, Inhabited

namespace Switch

def long : Switch → String
  | path => "path"
  | verbose => "verbose"
  | noColor => "no-color"
  | minified => "minify-html"
  | watch => "watch"
  | templates => "templates"
  | bundle => "bundle"
  | data => "data"
  | help => "help"
  | version => "version"

def short? : Switch → Option Char
  | path => some 'p'
  | verbose => some 'v'
  | help => some 'h'
  | version => some 'V'
  | _ => none

def takesPath : Switch → Bool
  | path => true
  | templates => true
  | bundle => true
  | data => true
  | _ => false

end Switch

inductive Scope where
  | program
  | build
  | render
  | list
  deriving Repr, DecidableEq, Inhabited

namespace Scope

def ofName? (name : String) : Option Scope :=
  if name = "build" then some build
  else if name = "render" then some render
  else if name = "list" then some list
  else none

def switches : Scope → List Switch
  | program => [.path, .verbose, .noColor, .help, .version]
  | build => [.minified, .watch, .path, .verbose, .noColor, .help]
  | render => [.templates, .bundle, .data, .minified, .path, .verbose, .noColor, .help]
  | list => [.templates, .path, .verbose, .noColor, .help]

/-- For each word of a scope whether it is a path, which cannot be empty. -/
def words : Scope → List Bool
  | program => []
  | build => [true, true]
  | render => [false]
  | list => []

end Scope

inductive Pending where
  | nothing
  | switch (s : Switch) (value : Option String)
  | word (s : String)
  deriving Repr, DecidableEq, Inhabited

structure Matched where
  values : List (Switch × String) := []
  on : List Switch := []
  words : List String := []
  pending : Pending := .nothing
  /-- Whether all that follows are words. -/
  wordsOnly : Bool := false
  deriving Repr, DecidableEq, Inhabited

namespace Matched

def awaitsValue (matched : Matched) : Bool :=
  match matched.pending with
  | .switch _ none => true
  | _ => false

def settle (scope : Scope) (matched : Matched) : Except Refusal Matched :=
  let settled := { matched with pending := .nothing }
  match matched.pending with
  | .nothing => .ok settled
  | .switch _ none => .error .invalidValue
  | .switch s (some value) =>
    if (matched.values.lookup s).isSome then .error .conflict
    else if value.isEmpty then .error .invalidValue
    else .ok { settled with values := matched.values ++ [(s, value)] }
  | .word s =>
    if s.isEmpty && (scope.words[matched.words.length]?).getD false then .error .invalidValue
    else .ok { settled with words := matched.words ++ [s] }

def turnOn (scope : Scope) (s : Switch) (matched : Matched) : Except Refusal Matched := do
  let matched ← matched.settle scope
  match s with
  | .help => throw .help
  | .version => throw .version
  | s => if matched.on.contains s then throw .conflict else return { matched with on := s :: matched.on }

/-- A switch with its value, which is looked at at once when it is there. -/
def assign (scope : Scope) (s : Switch) (value : Option String) (matched : Matched) : Except Refusal Matched := do
  let matched ← matched.settle scope
  let matched := { matched with pending := .switch s value }
  if value.isSome then matched.settle scope else return matched

def long (scope : Scope) (argument : List Char) (matched : Matched) : Except Refusal Matched :=
  let name := String.ofList (argument.takeWhile (· ≠ '='))
  let value := match argument.dropWhile (· ≠ '=') with
    | _ :: value => some (String.ofList value)
    | [] => none
  match scope.switches.find? (·.long = name) with
  | none => .error .unknownArgument
  | some s =>
    if s.takesPath then matched.assign scope s value
    else if value.isSome then .error .tooManyValues
    else matched.turnOn scope s

/-- The letters after one hyphen; what follows a switch that takes a value is the value. -/
def shorts (scope : Scope) (matched : Matched) : List Char → Except Refusal Matched
  | [] => .ok matched
  | c :: rest =>
    match scope.switches.find? (·.short? = some c) with
    | none => .error .unknownArgument
    | some s =>
      if s.takesPath then
        match rest with
        | [] => matched.assign scope s none
        | '=' :: value => matched.assign scope s (some (String.ofList value))
        | value => matched.assign scope s (some (String.ofList value))
      else do shorts scope (← matched.turnOn scope s) rest

def word (scope : Scope) (argument : String) (matched : Matched) : Except Refusal Matched :=
  let ahead := match matched.pending with
    | .word _ => 1
    | _ => 0
  if matched.words.length + ahead < scope.words.length then do
    return { ← matched.settle scope with pending := .word argument }
  else if scope = .program then
    let isCommand := (Scope.ofName? argument).isSome || argument = "help"
    .error (if matched.wordsOnly && isCommand then .unknownArgument else .unknownCommand)
  else .error .unknownArgument

def step (scope : Scope) (argument : String) (matched : Matched) : Except Refusal Matched :=
  if matched.wordsOnly then matched.word scope argument
  else
    match argument.toList with
    | ['-', '-'] => .ok { matched with wordsOnly := true }
    | '-' :: '-' :: rest => matched.long scope rest
    | '-' :: c :: rest => matched.shorts scope (c :: rest)
    | _ =>
      match matched.pending with
      | .switch s none => .ok { matched with pending := .switch s (some argument) }
      | _ => matched.word scope argument

/-- All arguments have been read: nothing excludes another and no word is missing. -/
def finish (scope : Scope) (matched : Matched) : Except Refusal Matched := do
  let matched ← matched.settle scope
  if (matched.values.lookup .templates).isSome ∧ (matched.values.lookup .bundle).isSome then throw .conflict
  if matched.words.length < scope.words.length then throw .missingArgument
  return matched

def path? (matched : Matched) (s : Switch) : Option Path := (matched.values.lookup s).map Path.mk

def isOn (matched : Matched) (s : Switch) : Bool := matched.on.contains s

def command? (scope : Scope) (matched : Matched) : Option Command :=
  match scope, matched.words with
  | .build, [folder, output] =>
    some (.build ⟨folder⟩ ⟨output⟩ (matched.isOn .minified) (matched.isOn .watch))
  | .render, [name] =>
    some (.render name (matched.path? .templates) (matched.path? .bundle) (matched.path? .data)
      (matched.isOn .minified))
  | .list, [] => some (.list (matched.path? .templates))
  | _, _ => none

end Matched

def helpAbout : List String → Refusal
  | [] => .help
  | [name] => if (Scope.ofName? name).isSome || name = "help" then .help else .unknownCommand
  | _ => .unknownCommand

def readScope (scope : Scope) (matched : Matched) : List String → Except Refusal Matched
  | [] => matched.finish scope
  | argument :: rest => do readScope scope (← matched.step scope argument) rest

def readProgram (matched : Matched) : List String → Except Refusal (Matched × Option (Scope × Matched))
  | [] => .ok (matched, none)
  | argument :: rest =>
    let mayBeCommand := !matched.wordsOnly && !matched.awaitsValue
    match Scope.ofName? argument with
    | some scope =>
      if mayBeCommand then do return (matched, some (scope, ← readScope scope {} rest))
      else do readProgram (← matched.step .program argument) rest
    | none =>
      if mayBeCommand && argument = "help" then .error (helpAbout rest)
      else do readProgram (← matched.step .program argument) rest

/-- The command line that arguments spell. What holds for any command may be given before or after
the name of the command; the path after it counts. -/
def CommandLine.ofArguments (arguments : List String) : Except Refusal CommandLine := do
  let (outer, inner) ← readProgram {} arguments
  let outer ← outer.finish .program
  match inner with
  | none => return ⟨none, outer.path? .path, outer.isOn .verbose, outer.isOn .noColor⟩
  | some (scope, matched) =>
    return ⟨matched.command? scope, (matched.path? .path) <|> (outer.path? .path),
      outer.isOn .verbose || matched.isOn .verbose, outer.isOn .noColor || matched.isOn .noColor⟩

end BlockTemplates
