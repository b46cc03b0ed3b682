import PeerCheck.Number.Reading
import PeerCheck.Text.Quoted
import PeerCheck.Text.Search

/-!
# Command line arguments

One host is required; the options may stand before and after it, be shortened as long as they stay
unambiguous, and have their value after an equals sign or in the next word. After a lone double
dash every word is plain. A word that begins with a dash is plain if it is a number, or if it holds
a blank and is no option.
-/

namespace PeerCheck.Cli

open PeerCheck.Number PeerCheck.Text

inductive Setting
  | help
  | port
  | config
  | connectTimeout
  | localAddress
  | certFile
  | logPath
  | debugConsole
  deriving DecidableEq, Repr

namespace Setting

def takesValue : Setting → Bool
  | help | debugConsole => false
  | _ => true

def names : List (String × Setting) := [
  ("-h", help), ("--help", help), ("--port", port), ("--config", config),
  ("--connect-timeout", connectTimeout), ("--local-address", localAddress),
  ("--cert-file", certFile), ("--log-path", logPath), ("--debug-console", debugConsole)]

def label (s : Setting) : String :=
  String.intercalate "/" ((names.filter (·.2 = s)).map (·.1))

end Setting

/-- Why a command line is refused. -/
inductive Refusal
  | ambiguous (word : String) (candidates : List String)
  | valueExpected (s : Setting)
  | valueIgnored (s : Setting) (value : String)
  | badWhole (s : Setting) (value : String)
  | badNumber (s : Setting) (value : String)
  | hostMissing
  | unrecognized (words : List String)
  deriving DecidableEq, Repr

namespace Refusal

def quotedText (s : String) : String := String.ofList (quoted s.toList)

def message : Refusal → String
  | ambiguous word candidates =>
    let list := String.intercalate ", " candidates
    s!"ambiguous option: {word} could match {list}"
  | valueExpected s => s!"argument {s.label}: expected one argument"
  | valueIgnored s value => s!"argument {s.label}: ignored explicit argument {quotedText value}"
  | badWhole s value => s!"argument {s.label}: invalid int value: {quotedText value}"
  | badNumber s value => s!"argument {s.label}: invalid float value: {quotedText value}"
  | hostMissing => "the following arguments are required: host"
  | unrecognized words =>
    let list := String.intercalate " " words
    s!"unrecognized arguments: {list}"

def line (r : Refusal) : String := s!"tlsguard-check: error: {r.message}\n"

end Refusal

/-! ## Words -/

/-- What a word is taken for. -/
inductive Kind
  | plain
  | separator
  | known (s : Setting) (isShort : Bool) (value : Option String)
  | unknown
  deriving DecidableEq, Repr

structure Word where
  text : String
  kind : Kind
  deriving DecidableEq, Repr

/-- Splits at the first equals sign. -/
def splitValue (word : List Char) : List Char × Option String :=
  match cutAt? ['='] word with
  | some (name, value) => (name, some (String.ofList value))
  | none => (word, none)

def isShortName (name : String) : Bool := !(dropPrefix? ['-', '-'] name.toList).isSome

/-- The options a word that begins with a dash may be short for. -/
def candidates (word : List Char) : List (String × Kind) :=
  match word with
  | '-' :: '-' :: _ =>
    let (name, value) := splitValue word
    (Setting.names.filter fun (n, _) => (dropPrefix? name n.toList).isSome).map fun (n, s) =>
      (n, .known s (isShortName n) value)
  | _ =>
    Setting.names.filterMap fun (n, s) =>
      if n.toList = word.take 2 then some (n, .known s true (some (String.ofList (word.drop 2))))
      else if (dropPrefix? word n.toList).isSome then some (n, .known s (isShortName n) none)
      else none

def areDigits (cs : List Char) : Bool := !cs.isEmpty && cs.all fun c => (decimalValue? c).isSome

/-- A minus sign and a number, whole or with a fraction; one line feed may follow. -/
def isNegativeNumber (word : List Char) : Bool :=
  let word := if word.getLast? = some '\n' then word.dropLast else word
  match word with
  | '-' :: body =>
    areDigits body ||
      match cutAt? ['.'] body with
      | some (whole, fraction) => (whole.isEmpty || areDigits whole) && areDigits fraction
      | none => false
  | _ => false

def classify (text : String) : Except Refusal Kind :=
  let word := text.toList
  if word.head? ≠ some '-' then .ok .plain
  else match Setting.names.lookup text with
    | some s => .ok (.known s (isShortName text) none)
    | none =>
      if word.length = 1 then .ok .plain
      else
        let (name, value) := splitValue word
        match value.isSome, Setting.names.lookup (String.ofList name) with
        | true, some s => .ok (.known s (isShortName (String.ofList name)) value)
        | _, _ =>
          match candidates word with
          | [(_, k)] => .ok k
          | [] => .ok (if isNegativeNumber word || word.contains ' ' then .plain else .unknown)
          | cs => .error (.ambiguous text (cs.map (·.1)))

def classifyAll : List String → Except Refusal (List Word)
  | [] => .ok []
  | "--" :: rest => .ok (⟨"--", .separator⟩ :: rest.map (⟨·, .plain⟩))
  | text :: rest => do
    let kind ← classify text
    let words ← classifyAll rest
    .ok (⟨text, kind⟩ :: words)

/-! ## Arguments -/

def defaultPort : Int := 443

structure Arguments where
  host : Option String := none
  port : Int := defaultPort
  config : Option String := none
  connectTimeout : Option Binary64 := none
  localAddress : Option String := none
  certFile : Option String := none
  logPath : Option String := none
  debugConsole : Bool := false
  help : Bool := false
  extras : List String := []
  deriving DecidableEq, Repr

namespace Arguments

def wholeValue (s : Setting) (value : String) : Except Refusal Int :=
  match readInt? value.toList with
  | some n => .ok n
  | none => .error (.badWhole s value)

def numberValue (s : Setting) (value : String) : Except Refusal Binary64 :=
  match readFloat? value.toList with
  | some x => .ok x
  | none => .error (.badNumber s value)

def set (a : Arguments) (s : Setting) (value : String) : Except Refusal Arguments :=
  match s with
  | .help => .ok { a with help := true }
  | .debugConsole => .ok { a with debugConsole := true }
  | .port => (wholeValue s value).map fun n => { a with port := n }
  | .connectTimeout => (numberValue s value).map fun x => { a with connectTimeout := some x }
  | .config => .ok { a with config := some value }
  | .localAddress => .ok { a with localAddress := some value }
  | .certFile => .ok { a with certFile := some value }
  | .logPath => .ok { a with logPath := some value }

/-- An option without a value that is given one: only its own short name may be repeated. -/
def repeated (s : Setting) (isShort : Bool) (value : String) : Except Refusal Unit :=
  let rest := value.toList.dropWhile (· == 'h')
  if isShort && value != "" && rest.isEmpty then .ok ()
  else .error (.valueIgnored s (if isShort && value != "" then String.ofList rest else value))

/-- The host at the front of the words: a separator may stand before it and after it. -/
def takeHost? (words : List Word) : Option (String × List Word) :=
  match words.dropWhile (·.kind = .separator) with
  | ⟨text, .plain⟩ :: rest => some (text, rest.dropWhile (·.kind = .separator))
  | _ => none

/-- Takes the words in order. The fuel is a bound on their number. -/
def takeAll : Nat → Arguments → List Word → Except Refusal Arguments
  | 0, a, _ => .ok a
  | _, a, [] => .ok a
  | fuel + 1, a, w :: rest =>
    match w.kind with
    | .unknown => takeAll fuel { a with extras := a.extras ++ [w.text] } rest
    | .known s isShort (some value) => do
      if s.takesValue then takeAll fuel (← a.set s value) rest
      else
        repeated s isShort value
        takeAll fuel (← a.set s "") rest
    | .known s _ none =>
      if s.takesValue then
        match rest with
        | ⟨value, .plain⟩ :: rest => do takeAll fuel (← a.set s value) rest
        | _ => .error (.valueExpected s)
      else do takeAll fuel (← a.set s "") rest
    | _ =>
      match a.host, takeHost? (w :: rest) with
      | none, some (host, rest) => takeAll fuel { a with host := some host } rest
      | _, _ => takeAll fuel { a with extras := a.extras ++ [w.text] } rest

def read (argv : List String) : Except Refusal Arguments := do
  let words ← classifyAll argv
  let a ← takeAll words.length {} words
  if a.help then .ok a
  else if a.host.isNone then .error .hostMissing
  else if !a.extras.isEmpty then .error (.unrecognized a.extras)
  else .ok a

/-- The host to check; none where help is asked for instead. -/
def target? (a : Arguments) : Option String := if a.help then none else a.host

end Arguments

end PeerCheck.Cli
