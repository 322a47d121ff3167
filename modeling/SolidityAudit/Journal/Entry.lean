/-
This file defines the entries of the journal that every part of the analysis keeps.
-/

import SolidityAudit.Text.Wording

namespace SolidityAudit.Journal

open Text (Wording)

inductive Level where
  | debug
  | info
  | warning
  | error
  | critical
  deriving DecidableEq, Repr

def Level.rank : Level → Nat
  | .debug => 10
  | .info => 20
  | .warning => 30
  | .error => 40
  | .critical => 50

def Level.label : Level → String
  | .debug => "DEBUG"
  | .info => "INFO"
  | .warning => "WARNING"
  | .error => "ERROR"
  | .critical => "CRITICAL"

/-- An entry is written on the channel of the part that speaks. -/
structure Entry where
  level : Level
  channel : String
  message : Wording
  deriving DecidableEq, Repr

/-- Every channel stands below the common one unless its name already says so. -/
def channelNamed (name : String) : String :=
  if "contractlens".toList.isPrefixOf name.toList then name else "contractlens." ++ name

end SolidityAudit.Journal
