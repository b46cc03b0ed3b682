/-!
# Faults of log lines

Why a message cannot be made of a template and its arguments, and why a time has no written form.
-/

namespace PeerCheck.Log

inductive TemplateFault
  | tooFewArguments
  | unusedArguments
  | needsMapping
  | missingKey (shown : String)
  | unclosedKey
  | unfinished
  | unknownConversion (conversion : Char) (code index : Nat)
  | starNotWhole
  | starTooLarge (kind : String)
  | tooWide
  | tooPrecise
  | notReal (conversion : Char) (typeName : String)
  | notWhole (conversion : Char) (typeName : String)
  | notNumber (typeName : String)
  | notCharacter
  | characterOutOfRange
  | floatAsWhole (infinite : Bool)
  | wholeTooLarge
  deriving DecidableEq, Repr

namespace TemplateFault

def message : TemplateFault → String
  | tooFewArguments => "not enough arguments for format string"
  | unusedArguments => "not all arguments converted during string formatting"
  | needsMapping => "format requires a mapping"
  | missingKey shown => shown
  | unclosedKey => "incomplete format key"
  | unfinished => "incomplete format"
  | unknownConversion conversion code index =>
    let digits := String.ofList (Nat.toDigits 16 code)
    s!"unsupported format character '{conversion}' (0x{digits}) at index {index}"
  | starNotWhole => "* wants int"
  | starTooLarge kind => s!"Python int too large to convert to C {kind}"
  | tooWide => "width too big"
  | tooPrecise => "precision too big"
  | notReal conversion typeName =>
    s!"%{conversion} format: a real number is required, not {typeName}"
  | notWhole conversion typeName =>
    s!"%{conversion} format: an integer is required, not {typeName}"
  | notNumber typeName => s!"must be real number, not {typeName}"
  | notCharacter => "%c requires int or char"
  | characterOutOfRange => "%c arg not in range(0x110000)"
  | floatAsWhole true => "cannot convert float infinity to integer"
  | floatAsWhole false => "cannot convert float NaN to integer"
  | wholeTooLarge => "int too large to convert to float"

/-- A value of the right type that is unsuitable. -/
def isValue : TemplateFault → Bool
  | unclosedKey | unfinished | unknownConversion .. | tooWide | tooPrecise => true
  | floatAsWhole infinite => !infinite
  | _ => false

def isOverflow : TemplateFault → Bool
  | starTooLarge _ | characterOutOfRange | wholeTooLarge => true
  | floatAsWhole infinite => infinite
  | _ => false

end TemplateFault

inductive TimeFault
  | notANumber
  | beyondSeconds
  | beyondYears
  | yearOutOfRange (year : Int)
  deriving DecidableEq, Repr

namespace TimeFault

def message : TimeFault → String
  | notANumber => "Invalid value NaN (not a number)"
  | beyondSeconds => "timestamp out of range for platform time_t"
  | beyondYears => "[Errno 75] Value too large for defined data type"
  | yearOutOfRange year => s!"year {year} is out of range"

def isOs : TimeFault → Bool
  | beyondYears => true
  | _ => false

def isValue : TimeFault → Bool
  | notANumber | yearOutOfRange _ => true
  | _ => false

end TimeFault

end PeerCheck.Log
