/-!
Options on a command line. An option has a long name and perhaps a letter; letters can be joined,
and a value stands behind a `=`, directly behind a letter, or in the next argument. No option may be
given twice.
-/

namespace AnswerGraph

namespace Command

/-- Why arguments do not make a command. -/
inductive Stop where
  | help
  | version
  | misuse
  deriving DecidableEq, Repr

inductive OptionKind where
  | flag
  /-- A flag that ends the reading of arguments. -/
  | stop (cause : Stop)
  | text
  /-- A text that is not empty. -/
  | path
  | choice (names : List String)
  deriving DecidableEq, Repr

namespace OptionKind

def takesValue : OptionKind → Bool
  | flag => false
  | stop _ => false
  | _ => true

def accepts (value : String) : OptionKind → Bool
  | path => !value.isEmpty
  | choice names => names.contains value
  | _ => true

end OptionKind

structure OptionSpec where
  name : String
  letter : Option Char := none
  kind : OptionKind
  deriving DecidableEq, Repr

/-- The options that were given, by name, with their values. -/
abbrev Given := List (String × String)

/-- An argument that is an option, or several letters of options. -/
def isOption (argument : String) : Bool :=
  argument.toList.head? == some '-' && argument != "-"

/-- Adds an option with its value. -/
def give (spec : OptionSpec) (value : String) (given : Given) : Except Stop Given :=
  match spec.kind with
  | .stop cause => .error cause
  | kind =>
    if (given.lookup spec.name).isSome || !kind.accepts value then .error .misuse
    else .ok ((spec.name, value) :: given)

/-- Adds an option whose value is the next argument. -/
def giveNext (spec : OptionSpec) (given : Given) :
    List String → Except Stop (Given × List String)
  | [] => .error .misuse
  | value :: rest =>
    if isOption value then .error .misuse else (give spec value given).map (·, rest)

/-- Reads letters after a dash; `rest` are the arguments after them. -/
def readLetters (specs : List OptionSpec) (rest : List String) (given : Given) :
    List Char → Except Stop (Given × List String)
  | [] => .ok (given, rest)
  | letter :: more =>
    match specs.find? (·.letter == some letter) with
    | none => .error .misuse
    | some spec =>
      if !spec.kind.takesValue then do readLetters specs rest (← give spec "" given) more
      else
        match more with
        | [] => giveNext spec given rest
        | '=' :: value => (give spec (String.ofList value) given).map (·, rest)
        | value => (give spec (String.ofList value) given).map (·, rest)

/-- Reads a long option, given without its dashes. -/
def readLong (specs : List OptionSpec) (rest : List String) (given : Given) (text : List Char) :
    Except Stop (Given × List String) :=
  let (name, tail) := text.span (· != '=')
  match specs.find? (·.name == String.ofList name) with
  | none => .error .misuse
  | some spec =>
    match spec.kind.takesValue, tail with
    | true, [] => giveNext spec given rest
    | true, _ :: value => (give spec (String.ofList value) given).map (·, rest)
    | false, [] => (give spec "" given).map (·, rest)
    | false, _ :: _ => .error .misuse

/-- Reads options up to an argument that is none. Two dashes may stand at the end. -/
def readOptions (specs : List OptionSpec) :
    Nat → Given → List String → Except Stop (Given × List String)
  | 0, given, arguments => .ok (given, arguments)
  | fuel + 1, given, arguments =>
    match arguments with
    | [] => .ok (given, [])
    | argument :: rest => do
      match argument.toList with
      | '-' :: '-' :: text =>
        if text.isEmpty then
          if rest.isEmpty then .ok (given, []) else .error .misuse
        else
          let (given, rest) ← readLong specs rest given text
          readOptions specs fuel given rest
      | '-' :: letter :: letters =>
        let (given, rest) ← readLetters specs rest given (letter :: letters)
        readOptions specs fuel given rest
      | _ => .ok (given, argument :: rest)

end Command

end AnswerGraph
