/-!
# Command line arguments

Arguments are options, which start with dashes, and words. An option may stand anywhere, its value
after an equals sign or as the next argument, and may be given only once; two dashes alone make
everything after them a word.
-/

namespace StoryTrace

/-- What the value of an option or a word has to look like. -/
inductive ValueShape where
  | text
  | path
  | choice (names : List String)
  deriving DecidableEq, Repr

/-- A path may not be empty, and a choice has to be one of its names. -/
def ValueShape.accepts : ValueShape → String → Bool
  | .text, _ => true
  | .path, s => s != ""
  | .choice names, s => names.contains s

/-- An option. One without a value is a flag. -/
structure OptionSpec where
  name : String
  short : Option Char := none
  value : Option ValueShape := none
  deriving DecidableEq, Repr

/-- What can be given at one level of the command line: before the command, or after it. -/
structure ArgumentLevel where
  options : List OptionSpec
  words : List ValueShape
  /-- The first word names a command, which takes the arguments after it. -/
  hasCommands : Bool
  deriving DecidableEq, Repr

/-- Why arguments do not lead to a command. -/
inductive Interruption where
  | misuse
  | help
  | version
  deriving DecidableEq, Repr

/-- What was given at one level. -/
structure Given where
  flags : List String
  values : List (String × String)
  words : List String
  deriving DecidableEq, Repr

inductive Argument where
  | word (s : String)
  | long (name : String) (value : Option String)
  | short (letters : List Char)
  | endOfOptions
  deriving DecidableEq, Repr

namespace Argument

/-- A long option with what follows its first equals sign. -/
def longOf (cs : List Char) : Argument :=
  let name := String.ofList (cs.takeWhile (· != '='))
  match cs.dropWhile (· != '=') with
  | [] => .long name none
  | _ :: value => .long name (some (String.ofList value))

def ofString (s : String) : Argument :=
  match s.toList with
  | ['-', '-'] => .endOfOptions
  | '-' :: '-' :: cs => longOf cs
  | ['-'] => .word s
  | '-' :: cs => .short cs
  | _ => .word s

/-- A word, which can also be the value of the option before it. -/
def word? (s : String) : Option String :=
  match ofString s with
  | .word w => some w
  | _ => none

end Argument

namespace Given

def empty : Given := ⟨[], [], []⟩

def hasFlag (g : Given) (name : String) : Bool := g.flags.contains name

def value? (g : Given) (name : String) : Option String := g.values.lookup name

def giveFlag (g : Given) (name : String) : Except Interruption Given :=
  if g.hasFlag name then .error .misuse else .ok { g with flags := name :: g.flags }

def giveValue (g : Given) (name : String) (shape : ValueShape) (value : String) :
    Except Interruption Given :=
  if (g.value? name).isSome || !shape.accepts value then .error .misuse
  else .ok { g with values := (name, value) :: g.values }

def giveWord (g : Given) (level : ArgumentLevel) (word : String) : Except Interruption Given :=
  match level.words[g.words.length]? with
  | some shape =>
    if shape.accepts word then .ok { g with words := g.words ++ [word] } else .error .misuse
  | none => .error .misuse

def giveWords (level : ArgumentLevel) : Given → List String → Except Interruption Given
  | g, [] => .ok g
  | g, w :: rest => (g.giveWord level w).bind fun g => giveWords level g rest

/-- Takes letters that stand together as flags. -/
def giveLetters (level : ArgumentLevel) : Given → List Char → Except Interruption Given
  | g, [] => .ok g
  | g, c :: rest =>
    if c = 'h' then .error .help
    else if c = 'V' && level.hasCommands then .error .version
    else
      match level.options.find? fun o => o.short == some c && o.value.isNone with
      | some o => (g.giveFlag o.name).bind fun g => giveLetters level g rest
      | none => .error .misuse

/-- What a long option without a value means. -/
def giveLong (g : Given) (level : ArgumentLevel) (name : String) : Except Interruption Given :=
  if name = "help" then .error .help
  else if name = "version" && level.hasCommands then .error .version
  else
    match level.options.find? (·.name == name) with
    | some ⟨_, _, none⟩ => g.giveFlag name
    | _ => .error .misuse

/-- The shape of the values of a long option that takes one. -/
def shapeOf? (level : ArgumentLevel) (name : String) : Option ValueShape :=
  (level.options.find? (·.name == name)).bind (·.value)

/-- Reads the arguments of a level. The first word that names a command ends it; the word and the
arguments after it are left over. -/
def read (level : ArgumentLevel) :
    Given → List String → Except Interruption (Given × List String)
  | g, [] => .ok (g, [])
  | g, s :: rest =>
    match Argument.ofString s with
    | .word w =>
      if level.hasCommands then .ok (g, w :: rest)
      else (g.giveWord level w).bind fun g => read level g rest
    | .endOfOptions => (giveWords level g rest).map fun g => (g, [])
    | .short letters => (g.giveLetters level letters).bind fun g => read level g rest
    | .long name (some value) =>
      match shapeOf? level name with
      | some shape => (g.giveValue name shape value).bind fun g => read level g rest
      | none => .error .misuse
    | .long name none =>
      match shapeOf? level name with
      | none => (g.giveLong level name).bind fun g => read level g rest
      | some shape =>
        match rest with
        | [] => .error .misuse
        | next :: more =>
          match Argument.word? next with
          | some value => (g.giveValue name shape value).bind fun g => read level g more
          | none => .error .misuse

end Given

end StoryTrace
