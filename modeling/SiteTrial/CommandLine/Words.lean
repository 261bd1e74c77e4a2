/-!
# Words of a command line

* `UsageError` : why a command line asks for nothing that can be done;
* `OptionKind`, `OptionForm` : what an option takes, and an option that a command knows;
* `Words`, `Words.read` : the options given and the other words, in order;
* `Words.has`, `Words.last?`, `Words.all` : looking options up;
* `Words.turns` : the options of a command in the order in which their values are checked.
-/

namespace SiteTrial

inductive UsageError where
  | noCommand
  | unknownCommand (name : String)
  | unknownOption (name : String)
  | valueMissing (name : String)
  | valueUnexpected (name : String)
  | otherWords (words : List String)
  | optionMissing (name : String)
  | badValue (name value : String)
  | noSuchPath (name path : String)
deriving Repr, DecidableEq

namespace UsageError

/-- The wording of a usage error. -/
def message : UsageError → String
  | .noCommand => "Missing command."
  | .unknownCommand name => s!"No such command '{name}'."
  | .unknownOption name => s!"No such option: {name}"
  | .valueMissing name => s!"Option '{name}' requires an argument."
  | .valueUnexpected name => s!"Option '{name}' does not take a value."
  | .otherWords words => "Got unexpected extra arguments (" ++ " ".intercalate words ++ ")"
  | .optionMissing name => s!"Missing option '{name}'."
  | .badValue name value => s!"Invalid value for '{name}': '{value}'."
  | .noSuchPath name path => s!"Invalid value for '{name}': Path '{path}' does not exist."

end UsageError

inductive OptionKind where
  /-- Nothing: it is given or not. -/
  | flag
  | word
  | path
  /-- A path at which something stands. -/
  | existingPath
  | positiveInteger
  /-- A number that is not below zero. -/
  | threshold
  | stage
  | logLevel
deriving Repr, DecidableEq

structure OptionForm where
  /-- The name, hyphens included. -/
  name : String
  kind : OptionKind := .flag
  required : Bool := false
deriving Repr, DecidableEq

/-- The options given and the other words, in order; an option without a value has an empty one. -/
structure Words where
  options : List (String × String) := []
  others : List String := []
deriving Repr, DecidableEq

namespace Words

/-- Whether a word is an option. -/
def isOption (word : String) : Bool :=
  match word.toList with
  | '-' :: _ :: _ => true
  | _ => false

/-- The name in an option word, and the value attached to it with an equals sign. -/
def splitOption (word : String) : String × Option String :=
  let cs := word.toList
  let name := cs.takeWhile (· ≠ '=')
  match cs.dropWhile (· ≠ '=') with
  | [] => (String.ofList name, none)
  | _ :: value => (String.ofList name, some (String.ofList value))

/-- With an option in front. -/
def withOption (ws : Words) (name value : String) : Words :=
  { ws with options := (name, value) :: ws.options }

/-- With another word in front. -/
def withOther (ws : Words) (word : String) : Words := { ws with others := word :: ws.others }

def formOf (forms : List OptionForm) (name : String) : Except UsageError OptionForm :=
  match forms.find? fun f => f.name = name with
  | some f => .ok f
  | none => .error (.unknownOption name)

/-- What comes of an option word, and the words left behind it. -/
def readOption (forms : List OptionForm) (word : String) (rest : List String) :
    Except UsageError ((String × String) × List String) := do
  let (name, attached) := splitOption word
  let form ← formOf forms name
  match form.kind != .flag, attached, rest with
  | true, some value, rest => return ((name, value), rest)
  | true, none, value :: rest => return ((name, value), rest)
  | true, none, [] => .error (.valueMissing name)
  | false, none, rest => return ((name, ""), rest)
  | false, some _, _ => .error (.valueUnexpected name)

/-- Reads at most so many words. -/
def readFor (forms : List OptionForm) : Nat → List String → Except UsageError Words
  | 0, _ => .ok {}
  | _, [] => .ok {}
  | _ + 1, "--" :: rest => .ok { others := rest }
  | n + 1, word :: rest =>
    if isOption word then do
      let ((name, value), rest) ← readOption forms word rest
      return (← readFor forms n rest).withOption name value
    else do return (← readFor forms n rest).withOther word

/-- Reads words; options may stand anywhere before two hyphens. -/
def read (forms : List OptionForm) (words : List String) : Except UsageError Words :=
  readFor forms words.length words

/-- Whether an option is given. -/
def has (ws : Words) (name : String) : Bool := ws.options.any fun o => o.1 = name

/-- All values of an option. -/
def all (ws : Words) (name : String) : List String :=
  (ws.options.filter fun o => o.1 = name).map Prod.snd

/-- The value of an option that is given last. -/
def last? (ws : Words) (name : String) : Option String := (ws.all name).getLast?

/-- The options of a command in the order in which their values are checked: those that are given as they
are given first, and then the others. -/
def turns (ws : Words) (forms : List OptionForm) : List OptionForm :=
  let given := ws.options.reverse.foldl (fun names o => o.1 :: names.filter (· ≠ o.1)) []
  given.filterMap (fun name => forms.find? fun f => f.name = name)
    ++ forms.filter fun f => !ws.has f.name

end Words

end SiteTrial
