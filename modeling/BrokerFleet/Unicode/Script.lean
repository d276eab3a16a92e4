import BrokerFleet.Unicode.Category
import BrokerFleet.Unicode.ScriptTable

/-! # Scripts

Every character belongs to one script; a script has a code of four letters and longer names. -/

namespace BrokerFleet.Unicode

/-- The numbers at which the characters of a script begin, with its code. -/
def scripts : List (Nat × String) := labelled 4 scriptLines

/-- The codes of the scripts with each of their longer names. -/
def scriptAliases : List (String × String) :=
  (entries scriptNames).filterMap fun e =>
    (Text.splitFirst? '=' e).map fun p => (String.ofList p.1, String.ofList p.2)

def ofScript (code : String) : CharSet := .ofRanges (labelledRanges (· == code) scripts)

end BrokerFleet.Unicode
