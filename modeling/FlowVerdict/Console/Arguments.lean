import FlowVerdict.Text.Numeral

/-!
The arguments of the command line. Every option takes a value, attached to it or as the next
argument, and is given at most once. The format of the output may be chosen before a command and
after it.
-/

namespace FlowVerdict.Console

/-- An option: the word after two dashes, and the letter after one dash if there is one. -/
structure Switch where
  word : String
  letter : Option Char

inductive Format where
  | text
  | json
deriving DecidableEq

def Format.ofName? : String → Option Format
  | "text" => some .text
  | "json" => some .json
  | _ => none

inductive Command where
  /-- Replay a trace with settings, and write a log. -/
  | replay (settings trace : String) (log : Option String)
  /-- Check settings. -/
  | check (settings : String)
  /-- Look at one payload, with the fingerprint of settings. -/
  | classify (payload : String) (source target : UInt16) (settings : Option String)
deriving DecidableEq

/-- A command and the form of its output. -/
structure Invocation where
  format : Format
  command : Command
deriving DecidableEq

abbrev Given := List (String × String)

/-- How an argument starts. -/
inductive Opening where
  /-- An option by its word, and the value after an equals sign. -/
  | word (word : String) (value : Option String)
  /-- An option by its letter, and the value behind it. -/
  | letter (letter : Char) (value : Option String)
  /-- No option. -/
  | plain

/-- The text before the first equals sign, and the text after it. -/
def cutAtEquals (cs : List Char) : String × Option String :=
  let before := cs.takeWhile (· != '=')
  match cs.dropWhile (· != '=') with
  | _ :: after => (String.ofList before, some (String.ofList after))
  | [] => (String.ofList before, none)

/-- How an argument starts. Dashes alone are no option. -/
def opening (argument : String) : Opening :=
  match argument.toList with
  | ['-', '-'] => .plain
  | '-' :: '-' :: rest =>
    let (word, value) := cutAtEquals rest
    .word word value
  | '-' :: letter :: rest =>
    match rest with
    | [] => .letter letter none
    | '=' :: value => .letter letter (some (String.ofList value))
    | value => .letter letter (some (String.ofList value))
  | _ => .plain

/-- The argument can be the value of the option before it. -/
def isValue (argument : String) : Bool :=
  argument == "-" || argument.toList.head? != some '-'

def switch? (switches : List Switch) : Opening → Option (Switch × Option String)
  | .word word value => (switches.find? (·.word == word)).map fun s => (s, value)
  | .letter letter value => (switches.find? (·.letter == some letter)).map fun s => (s, value)
  | .plain => none

/-- The options at the front of the arguments, and the arguments that follow. -/
def options? (switches : List Switch) : List String → Option (Given × List String)
  | [] => some ([], [])
  | argument :: rest =>
    match opening argument with
    | .plain => some ([], argument :: rest)
    | start =>
      match switch? switches start with
      | none => none
      | some (s, some value) =>
        (options? switches rest).map fun (given, rest) => ((s.word, value) :: given, rest)
      | some (s, none) =>
        match rest with
        | [] => none
        | value :: rest =>
          if isValue value then
            (options? switches rest).map fun (given, rest) => ((s.word, value) :: given, rest)
          else none

/-- No option is given twice. -/
def isSingle (given : Given) : Bool :=
  let words := given.map Prod.fst
  words.eraseDups.length == words.length

/-- The value of an option read, if it is given. -/
def optional? {α : Type} (given : Given) (word : String) (read : String → Option α) :
    Option (Option α) :=
  match given.lookup word with
  | none => some none
  | some value => (read value).map some

/-- A path is never empty. -/
def path? (value : String) : Option String := if value.isEmpty then none else some value

/-- A port number in decimal, with any number of zeros before it. It may have a plus sign, and zero
a minus sign. -/
def port? (value : String) : Option UInt16 :=
  let format (bound : Nat) : Text.Numeral.Format := ⟨10, none, true, bound⟩
  let (bound, digits) := match value.toList with
    | '+' :: rest => (UInt16.size, rest)
    | '-' :: rest => (1, rest)
    | cs => (UInt16.size, cs)
  match (format bound).read digits with
  | some (n, []) => some (UInt16.ofNat n)
  | _ => none

def formatSwitch : Switch := ⟨"format", some 'f'⟩

def settingsSwitch : Switch := ⟨"config", some 'c'⟩

/-- The environment variable that names the settings where the option does not. -/
def settingsVariable : String := "CENSOR_CONFIG"

/-- The path of the settings, from the option or else from the environment. -/
def settingsPath? (environment : String → Option String) (given : Given) : Option String := do
  (given.lookup settingsSwitch.word).or (environment settingsVariable) >>= path?

def switches? : String → Option (List Switch)
  | "replay" => some [formatSwitch, settingsSwitch, ⟨"trace", some 't'⟩, ⟨"decision-log", none⟩]
  | "check-config" => some [formatSwitch, settingsSwitch]
  | "classify" =>
    some [formatSwitch, settingsSwitch, ⟨"payload", none⟩, ⟨"src-port", none⟩, ⟨"dst-port", none⟩]
  | _ => none

def command? (environment : String → Option String) (given : Given) : String → Option Command
  | "replay" => do
    let settings ← settingsPath? environment given
    let trace ← (given.lookup "trace").bind path?
    let log ← optional? given "decision-log" path?
    return .replay settings trace log
  | "check-config" => (settingsPath? environment given).map .check
  | "classify" => do
    let payload ← given.lookup "payload"
    let source ← optional? given "src-port" port?
    let target ← optional? given "dst-port" port?
    let settings ← optional? given settingsSwitch.word path?
    return .classify payload (source.getD 40000) (target.getD 8388) settings
  | _ => none

/-- The invocation that arguments spell. After a command nothing but its options may stand, and two
dashes at the end. -/
def Invocation.ofArguments? (environment : String → Option String) (arguments : List String) :
    Option Invocation := do
  let (outer, rest) ← options? [formatSwitch] arguments
  match rest with
  | [] => none
  | name :: rest =>
    let (inner, rest) ← options? (← switches? name) rest
    guard (isSingle outer && isSingle inner && (rest.isEmpty || rest == ["--"]))
    let outerFormat ← optional? outer formatSwitch.word Format.ofName?
    let innerFormat ← optional? inner formatSwitch.word Format.ofName?
    let command ← command? environment inner name
    return ⟨(innerFormat.or outerFormat).getD .text, command⟩

end FlowVerdict.Console
