import DependencyGate.Number.Literal

/-!
# Arguments

The words of a command line. Options may stand before and after positional words, take
their value from the same word or the next one, and may be repeated, the last one
counting. A request for help wins over missing and unfit values but not over words that
cannot be read at all.
-/

namespace DependencyGate.CommandLine

open Number (Binary64)

inductive Switch
  | help
  | database
  | moment
  | timezone
  | interval
  | timeout
deriving DecidableEq, Repr

abbrev OptionNames := List (String × Switch)

def helpNames : OptionNames := [("--help", .help), ("-h", .help)]

def checkNames : OptionNames :=
  helpNames ++ [("--database-url", .database), ("-d", .database), ("--at", .moment),
    ("--timezone", .timezone), ("-z", .timezone)]

def waitNames : OptionNames :=
  helpNames ++ [("--database-url", .database), ("-d", .database),
    ("--poll-interval", .interval), ("-i", .interval), ("--timeout", .timeout),
    ("-t", .timeout), ("--timezone", .timezone), ("-z", .timezone)]

def findOption (names : OptionNames) (name : List Char) : Option Switch :=
  (names.find? fun n => n.1.toList == name).map (·.2)

structure Words where
  options : List (Switch × String) := []
  positional : List String := []

def Words.value? (w : Words) (o : Switch) : Option String :=
  (w.options.reverse.find? fun given => given.1 == o).map (·.2)

def Words.asksForHelp (w : Words) : Bool := (w.value? .help).isSome

/-- What an option's word leaves to be read: its value, or a demand for the next word. -/
inductive Reading
  | given (options : List (Switch × String))
  | wanting (options : List (Switch × String)) (o : Switch)

def readCluster (names : OptionNames) : List (Switch × String) → List Char → Option Reading
  | seen, [] => some (.given seen)
  | seen, c :: rest =>
    match findOption names ['-', c] with
    | none => none
    | some .help => readCluster names (seen ++ [(.help, "")]) rest
    | some o =>
      if rest.isEmpty then some (.wanting seen o)
      else some (.given (seen ++ [(o, String.ofList rest)]))

def readOption (names : OptionNames) (word : List Char) : Option Reading :=
  let name := word.takeWhile (· != '=')
  match (if name.take 2 = ['-', '-'] then findOption names name else none),
      word.dropWhile (· != '=') with
  | some .help, [] => some (.given [(.help, "")])
  | some .help, _ => none
  | some o, [] => some (.wanting [] o)
  | some o, _ :: value => some (.given [(o, String.ofList value)])
  | none, _ => if word.take 2 = ['-', '-'] then none else readCluster names [] (word.drop 1)

def isOptionWord (word : String) : Bool :=
  match word.toList with
  | '-' :: _ :: _ => true
  | _ => false

/-- Reads the words of a command; `w` holds what was read before. -/
def readWords (names : OptionNames) (w : Words) : List String → Option Words
  | [] => some w
  | word :: rest =>
    if word = "--" then some { w with positional := w.positional ++ rest }
    else if isOptionWord word then
      match readOption names word.toList, rest with
      | none, _ => none
      | some (.given options), rest =>
        readWords names { w with options := w.options ++ options } rest
      | some (.wanting _ _), [] => none
      | some (.wanting options o), value :: rest =>
        readWords names { w with options := w.options ++ options ++ [(o, value)] } rest
    else readWords names { w with positional := w.positional ++ [word] } rest

-- ---------------------------------------------------------------------------
-- Commands
-- ---------------------------------------------------------------------------

inductive Command
  | help
  | version
  | check (file : String) (database timezone : Option String) (moment : Option String)
  | wait (file : String) (database timezone : Option String) (interval timeout : Option Binary64)
deriving DecidableEq

def readNumber (text : Option String) : Option (Option Binary64) :=
  match text with
  | none => some none
  | some s => (Number.parsePlainReal? s).map some

def readCheck (words : List String) : Option Command := do
  let w ← readWords checkNames {} words
  if w.asksForHelp then return .help
  match w.positional with
  | [file] => return .check file (w.value? .database) (w.value? .timezone) (w.value? .moment)
  | _ => none

def readWait (words : List String) : Option Command := do
  let w ← readWords waitNames {} words
  if w.asksForHelp then return .help
  match w.positional with
  | [file] =>
    return .wait file (w.value? .database) (w.value? .timezone)
      (← readNumber (w.value? .interval)) (← readNumber (w.value? .timeout))
  | _ => none

def readVersion (words : List String) : Option Command := do
  let w ← readWords helpNames {} words
  if w.asksForHelp then return .help
  if w.positional.isEmpty then return .version else none

/-- The words from the name of a command on, or help if it is asked for before. -/
def commandWords (help : Bool) : List String → Option (Bool × List String)
  | [] => some (help, [])
  | word :: rest =>
    if word = "--" then some (help, rest)
    else if isOptionWord word then
      match readOption helpNames word.toList with
      | some (.given _) => commandWords true rest
      | _ => none
    else some (help, word :: rest)

/--
Reads the words after a group's name by the commands of the group. Words that start with none of
them, as they may behind a double hyphen, can still ask the group itself for help.
-/
def readGroup (commands : List (String × (List String → Option Command))) (words : List String) :
    Option Command := do
  let (help, words) ← commandWords false words
  if help then return .help
  match words with
  | [] => none
  | name :: rest =>
    match commands.find? fun c => c.1 == name with
    | none =>
      let (help, _) ← commandWords false words
      if help then some .help else none
    | some (_, read) => read rest

def readDependent : List String → Option Command :=
  readGroup [("check", readCheck), ("wait", readWait)]

/-- The command that the words ask for; none is a mistake in their use. -/
def Command.read : List String → Option Command :=
  readGroup [("dependent", readDependent), ("version", readVersion)]

end DependencyGate.CommandLine
