/-!
# Arguments

How the arguments of a command line are taken apart. An argument that starts with two dashes
names an option; one that starts with a single dash names options by single letters, several of
which can stand together. An option that takes a value takes it from its own argument, after an
equals sign or directly after its letter, or else it takes the next argument, provided that this
names no option. A single dash names nothing and two dashes alone end the options. Everything
else is a word.

Arguments are looked at from the left, and the first thing that is wrong, or that asks for
information instead of a run, decides.

## Main definitions

* `OptionSpec` — an option that can be given.
* `Given` — what has been given so far.
* `Halt` — why the arguments are not looked at any further.
* `Grammar.scan` — take arguments apart, up to the word that names a command if there can be one.
-/

namespace DtoInterfaces

namespace CommandLine

/-! ### Options -/

/-- What an option asks for. -/
inductive OptionKind where
  /-- Something that is so or is not. -/
  | flag
  /-- A value. -/
  | value
  /-- The version of the program, and no run. -/
  | version
  /-- A description of the program, and no run. -/
  | help
deriving DecidableEq

/-- An option that can be given: its name, its letter if it has one, and what it asks for. -/
structure OptionSpec where
  name : String
  letter : Option Char
  kind : OptionKind
deriving DecidableEq

/-- What is wrong with arguments. -/
inductive ArgumentError where
  | unknownOption (name : String)
  | repeatedOption (name : String)
  | missingValue (name : String)
  | unexpectedValue (name : String)
  | unexpectedWord (word : String)
  | unknownCommand (name : String)
  | missingCommand
deriving DecidableEq

/-- Why arguments are not looked at any further. -/
inductive Halt where
  | version
  | help
  | refused (e : ArgumentError)
deriving DecidableEq

/-- What has been given so far. -/
structure Given where
  /-- The options by name; a flag has the empty value. -/
  options : List (String × String)
  /-- The words that are no options, in their order. -/
  words : List String
deriving DecidableEq

namespace Given

/-- Nothing. -/
def nothing : Given := ⟨[], []⟩

/-- The value of an option. -/
def value? (g : Given) (name : String) : Option String := g.options.lookup name

/-- Whether an option has been given. -/
def has (g : Given) (name : String) : Bool := (g.value? name).isSome

/-- Give an option, which can be given once. -/
def addOption (g : Given) (name value : String) : Except Halt Given :=
  if g.has name then .error (.refused (.repeatedOption name))
  else .ok { g with options := (name, value) :: g.options }

end Given

/-! ### Taking arguments apart -/

/-- What a command line can hold at one level: its options, and how many words that are no
commands. Where words name commands there are no others. -/
structure Grammar where
  options : List OptionSpec
  words : Nat
  namesCommand : Bool

namespace Grammar

/-- Give an option without a value. An option that takes one takes it from the next argument, so
it is answered by its name. -/
def give (spec : OptionSpec) (g : Given) : Except Halt (Given × Option String) :=
  match spec.kind with
  | .flag => (g.addOption spec.name "").map fun g => (g, none)
  | .value => .ok (g, some spec.name)
  | .version => .error .version
  | .help => .error .help

/-- The options of an argument with two dashes. The answer names the option whose value is still
to come. -/
def giveNamed (grammar : Grammar) (g : Given) (cs : List Char) :
    Except Halt (Given × Option String) :=
  let name := String.ofList (cs.takeWhile (· ≠ '='))
  match grammar.options.find? (·.name == name), cs.dropWhile (· ≠ '=') with
  | none, _ => .error (.refused (.unknownOption name))
  | some spec, [] => give spec g
  | some spec, _ :: value =>
    if spec.kind = .value then (g.addOption name (String.ofList value)).map fun g => (g, none)
    else .error (.refused (.unexpectedValue name))

/-- The options of an argument with one dash. The first letter that takes a value takes the rest
of the argument, without an equals sign in front. -/
def giveLetters (grammar : Grammar) (g : Given) : List Char → Except Halt (Given × Option String)
  | [] => .ok (g, none)
  | c :: cs =>
    match grammar.options.find? (·.letter == some c) with
    | none => .error (.refused (.unknownOption (String.singleton c)))
    | some spec =>
      match spec.kind, cs with
      | .value, '=' :: value => (g.addOption spec.name (String.ofList value)).map fun g => (g, none)
      | .value, c :: value =>
        (g.addOption spec.name (String.ofList (c :: value))).map fun g => (g, none)
      | _, cs => do
        match ← give spec g with
        | (g, none) => giveLetters grammar g cs
        | pending => .ok pending

/-- Give words that cannot be anything else. -/
def giveWords (grammar : Grammar) (g : Given) : List String → Except Halt Given
  | [] => .ok g
  | word :: words =>
    if g.words.length < grammar.words then
      giveWords grammar { g with words := g.words ++ [word] } words
    else .error (.refused (.unexpectedWord word))

/-- The kinds of arguments. -/
inductive Shape where
  | endOfOptions
  | named (cs : List Char)
  | letters (cs : List Char)
  | word

/-- The kind of an argument. -/
def shapeOf (argument : String) : Shape :=
  match argument.toList with
  | ['-', '-'] => .endOfOptions
  | '-' :: '-' :: cs => .named cs
  | '-' :: c :: cs => .letters (c :: cs)
  | _ => .word

/-- Whether an argument can be the value of the option before it. -/
def isValue (argument : String) : Bool :=
  match shapeOf argument with
  | .word => true
  | _ => false

/-- Take arguments apart. A word that names a command ends that, and is answered together with
the arguments behind it. -/
def scan (grammar : Grammar) (g : Given) :
    (pending : Option String) → List String → Except Halt (Given × Option (String × List String))
  | none, [] => .ok (g, none)
  | some name, [] => .error (.refused (.missingValue name))
  | some name, argument :: arguments =>
    if isValue argument then do
      scan grammar (← g.addOption name argument) none arguments
    else .error (.refused (.missingValue name))
  | none, argument :: arguments =>
    match shapeOf argument with
    | .endOfOptions => do return (← grammar.giveWords g arguments, none)
    | .named cs => do
      let (g, pending) ← grammar.giveNamed g cs
      scan grammar g pending arguments
    | .letters cs => do
      let (g, pending) ← grammar.giveLetters g cs
      scan grammar g pending arguments
    | .word =>
      if grammar.namesCommand then .ok (g, some (argument, arguments))
      else do scan grammar (← grammar.giveWords g [argument]) none arguments

end Grammar

end CommandLine

end DtoInterfaces
