/-
This file reads the settings of an analysis from the environment.
-/

import SolidityAudit.Text.LetterCase
import SolidityAudit.Text.Numeral

namespace SolidityAudit

structure Settings where
  slitherExecutable : String := "slither"
  solhintExecutable : String := "solhint"
  slitherTimeout : Int := 30
  solhintTimeout : Int := 15
  compilerVersion : Option String := none
  scratchPlace : Option Text.Wording := none
  chatKey : Option String := none
  chatModel : String := "gpt-3.5-turbo"
  excerptLimit : Int := 2000
  explorerUrl : String := "https://api-testnet.snowtrace.io/api"
  explorerKey : Option String := none
  explorerTimeout : Int := 30
  logLevel : String := "INFO"
  logFile : Option String := none
  deriving DecidableEq, Repr

abbrev Environment := List (String × String)

/-- A variable that is blank counts as unset, and white space around a value is dropped. -/
def Environment.text? (environment : Environment) (name : String) : Option String :=
  match environment.lookup name with
  | none => none
  | some raw =>
      let text := Text.trim raw.toList
      if text.isEmpty then none else some (String.ofList text)

def Environment.text (environment : Environment) (name default : String) : String :=
  (environment.text? name).getD default

/-- A variable that is no whole number counts as unset. -/
def Environment.integer [Host] (environment : Environment) (name : String) (default : Int) : Int :=
  match environment.lookup name with
  | none => default
  | some raw => match Text.readInteger raw.toList with
      | .ok value => value
      | .error _ => default

/-- The variables that settings are read from. -/
def Settings.variableNames : List String :=
  ["SLITHER_BIN", "SOLHINT_BIN", "SLITHER_TIMEOUT", "SOLHINT_TIMEOUT", "SOLC_VERSION",
    "TEMP_CONTRACTS_DIR", "OPENAI_API_KEY", "OPENAI_MODEL", "SUMMARY_EXCERPT_CHARS",
    "SNOWTRACE_API_URL", "SNOWTRACE_API_KEY", "EXPLORER_TIMEOUT", "LOG_LEVEL", "LOG_FILE"]

def Settings.ofEnvironment [Host] (environment : Environment) : Settings where
  slitherExecutable := environment.text "SLITHER_BIN" "slither"
  solhintExecutable := environment.text "SOLHINT_BIN" "solhint"
  slitherTimeout := environment.integer "SLITHER_TIMEOUT" 30
  solhintTimeout := environment.integer "SOLHINT_TIMEOUT" 15
  compilerVersion := environment.text? "SOLC_VERSION"
  scratchPlace := (environment.text? "TEMP_CONTRACTS_DIR").map Text.Wording.plain
  chatKey := environment.text? "OPENAI_API_KEY"
  chatModel := environment.text "OPENAI_MODEL" "gpt-3.5-turbo"
  excerptLimit := environment.integer "SUMMARY_EXCERPT_CHARS" 2000
  explorerUrl := environment.text "SNOWTRACE_API_URL" "https://api-testnet.snowtrace.io/api"
  explorerKey := environment.text? "SNOWTRACE_API_KEY"
  explorerTimeout := environment.integer "EXPLORER_TIMEOUT" 30
  logLevel := String.ofList (Text.upper (environment.text "LOG_LEVEL" "INFO").toList)
  logFile := environment.text? "LOG_FILE"

end SolidityAudit
