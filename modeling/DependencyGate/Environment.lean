import DependencyGate.Text.Blank

/-!
# Environments

An environment gives values to names. A file adds to it: one binding per line, values
bare or in quotes, comments after a number sign, and names without a value, which stay
unbound. A value may refer to others by their names. `readBindings` lists what a file
binds; lines that cannot be read are left out.
-/

namespace DependencyGate

abbrev Environment := List (String × String)

namespace Environment

def get? (env : Environment) (name : String) : Option String :=
  (env.find? fun entry => entry.1 == name).map (·.2)

def erase (env : Environment) (name : String) : Environment :=
  env.filter fun entry => entry.1 != name

/-- Sets a value; a name that is already there keeps its place. -/
def set (env : Environment) (name value : String) : Environment :=
  if (env.get? name).isSome then
    env.map fun entry => if entry.1 = name then (name, value) else entry
  else env ++ [(name, value)]

def insertOrdered (entry : String × String) : Environment → Environment
  | [] => [entry]
  | e :: rest => if e.1 < entry.1 then e :: insertOrdered entry rest else entry :: e :: rest

def ordered (env : Environment) : Environment := env.foldr insertOrdered []

/-- Adds bindings; without `override` they do not replace values that are there already. -/
def load (override : Bool) (env : Environment) (bindings : Environment) : Environment :=
  bindings.foldl (fun now b =>
    if !override && (env.get? b.1).isSome then now else now.set b.1 b.2) env

end Environment

namespace EnvironmentFile

open Text (isBlank trimChars)

def isGap (c : Char) : Bool := isBlank c && c != '\n'

def isKeyChar (c : Char) : Bool := c != '=' && c != '#' && !isBlank c

def skipGap (cs : List Char) : List Char := cs.dropWhile isGap

def skipLine (cs : List Char) : List Char := (cs.dropWhile (· != '\n')).drop 1

def endLine? (cs : List Char) : Option (List Char) :=
  match skipGap cs with
  | [] => some []
  | '\n' :: rest => some rest
  | '#' :: rest => some (skipLine rest)
  | _ => none

/-- The text up to a closing quote. A quote after a backslash closes only if no later one does. -/
def quotedText? (quote : Char) : List Char → Option (List Char × List Char)
  | [] => none
  | '\\' :: c :: rest =>
    if c = quote then
      match quotedText? quote rest with
      | some (text, rest) => some ('\\' :: c :: text, rest)
      | none => some (['\\'], rest)
    else (quotedText? quote (c :: rest)).map fun (text, rest) => ('\\' :: text, rest)
  | c :: rest =>
    if c = quote then some ([], rest)
    else (quotedText? quote rest).map fun (text, rest) => (c :: text, rest)

def escaped? : Char → Option Char
  | '\\' => some '\\'
  | '\'' => some '\''
  | '"' => some '"'
  | 'a' => some '\x07'
  | 'b' => some '\x08'
  | 'f' => some '\x0c'
  | 'n' => some '\n'
  | 'r' => some '\r'
  | 't' => some '\t'
  | 'v' => some '\x0b'
  | _ => none

def escapedSingle? : Char → Option Char
  | '\\' => some '\\'
  | '\'' => some '\''
  | _ => none

def unescape (meaning : Char → Option Char) : List Char → List Char
  | [] => []
  | '\\' :: c :: rest =>
    match meaning c with
    | some d => d :: unescape meaning rest
    | none => '\\' :: unescape meaning (c :: rest)
  | c :: rest => c :: unescape meaning rest

def startsComment (cs : List Char) : Bool :=
  match cs with
  | c :: rest => isBlank c && (rest.dropWhile isBlank).head? == some '#'
  | [] => false

def beforeComment : List Char → List Char
  | [] => []
  | c :: rest => if startsComment (c :: rest) then [] else c :: beforeComment rest

def bareValue (cs : List Char) : String := String.ofList (trimChars (beforeComment cs))

/-- A value and what follows it; the gap before a bare value may already start a comment. -/
def value? (cs : List Char) : Option (String × List Char) :=
  match skipGap cs with
  | '\'' :: rest =>
    (quotedText? '\'' rest).map fun (text, rest) =>
      (String.ofList (unescape escapedSingle? text), rest)
  | '"' :: rest =>
    (quotedText? '"' rest).map fun (text, rest) => (String.ofList (unescape escaped? text), rest)
  | _ => some (bareValue (cs.takeWhile (· != '\n')), cs.dropWhile (· != '\n'))

def key? (cs : List Char) : Option (String × List Char) :=
  match cs with
  | '\'' :: rest =>
    match rest.takeWhile (· != '\''), rest.dropWhile (· != '\'') with
    | [], _ => none
    | _, [] => none
    | name, _ :: rest => some (String.ofList name, rest)
  | _ =>
    match cs.takeWhile isKeyChar with
    | [] => none
    | name => some (String.ofList name, cs.dropWhile isKeyChar)

def skipExport (cs : List Char) : List Char :=
  match cs with
  | 'e' :: 'x' :: 'p' :: 'o' :: 'r' :: 't' :: c :: rest => if isGap c then skipGap rest else cs
  | _ => cs

abbrev Binding := String × Option String

def binding (cs : List Char) : Option Binding × List Char :=
  match cs with
  | '#' :: _ => (none, skipLine cs)
  | _ =>
    match key? cs with
    | none => (none, skipLine cs)
    | some (key, rest) =>
      match skipGap rest with
      | '=' :: rest =>
        match value? rest with
        | none => (none, skipLine rest)
        | some (value, rest) =>
          match endLine? rest with
          | some rest => (some (key, some value), rest)
          | none => (none, skipLine rest)
      | rest =>
        match endLine? rest with
        | some rest => (some (key, none), rest)
        | none => (none, skipLine rest)

/-- The bindings of a text in order; `fuel` bounds their number. -/
def bindings : Nat → List Char → List Binding
  | 0, _ => []
  | fuel + 1, cs =>
    match skipExport (cs.dropWhile isBlank) with
    | [] => []
    | cs =>
      match binding cs with
      | (some b, rest) => b :: bindings fuel rest
      | (none, rest) => bindings fuel rest

-- ---------------------------------------------------------------------------
-- References
-- ---------------------------------------------------------------------------

/-- A reference to a value: a name, and what stands for a value that is not there. -/
structure ValueReference where
  name : List Char
  fallback : List Char

def reference? (cs : List Char) : Option (ValueReference × List Char) :=
  let name := cs.takeWhile fun c => c != '\x7d' && c != ':'
  match cs.dropWhile fun c => c != '\x7d' && c != ':' with
  | '\x7d' :: rest => some (⟨name, []⟩, rest)
  | ':' :: '-' :: rest =>
    match rest.dropWhile (· != '\x7d') with
    | _ :: after => some (⟨name, rest.takeWhile (· != '\x7d')⟩, after)
    | [] => none
  | _ => none

/-- Replaces references; `value?` is what a name stands for, and `fuel` bounds the length. -/
def expand (value? : String → Option String) : Nat → List Char → List Char
  | 0, cs => cs
  | _, [] => []
  | fuel + 1, '$' :: '\x7b' :: rest =>
    match reference? rest with
    | some (r, rest) =>
      ((value? (String.ofList r.name)).map String.toList).getD r.fallback ++ expand value? fuel rest
    | none => '$' :: expand value? fuel ('\x7b' :: rest)
  | fuel + 1, c :: rest => c :: expand value? fuel rest

/-- What a name stands for after some bindings; one without a value stands for nothing at all. -/
def valueAfter (done : List Binding) (name : String) : Option String :=
  (done.find? fun b => b.1 == name).map fun b => b.2.getD ""

def setBinding (b : Binding) : List Binding → List Binding
  | [] => [b]
  | c :: rest => if c.1 = b.1 then b :: rest else c :: setBinding b rest

/--
Adds a binding to earlier ones. References see the environment and the earlier bindings, and the
latter come first only with `override`.
-/
def addBinding (override : Bool) (env : Environment) (done : List Binding) (b : Binding) :
    List Binding :=
  let value? := fun name =>
    if override then (valueAfter done name).or (env.get? name)
    else (env.get? name).or (valueAfter done name)
  let value := b.2.map fun v => String.ofList (expand value? (v.length + 1) v.toList)
  setBinding (b.1, value) done

def readBindings (override : Bool) (env : Environment) (text : String) : Environment :=
  let all := (bindings (text.length + 1) (Text.singleBreaks text.toList)).foldl
    (addBinding override env) []
  all.filterMap fun b => b.2.map fun v => (b.1, v)

def loadFirst (override : Bool) (files : List (Option String)) (env : Environment) :
    Bool × Environment :=
  match files with
  | [] => (false, env)
  | none :: rest => loadFirst override rest env
  | some text :: _ => (true, env.load override (readBindings override env text))

end EnvironmentFile
end DependencyGate
