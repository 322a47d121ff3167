/-
This file judges a whole source text by the words that occur in it.
-/

import SolidityAudit.Diagnostic
import SolidityAudit.Journal.Entry
import SolidityAudit.Text.LetterCase
import SolidityAudit.Text.Piece

namespace SolidityAudit.Detection

open Text

/-- A rule fires when each group has a word in the text and no excluded word is there. -/
structure SecurityRule where
  name : String
  description : String
  severity : String
  confidence : String
  required : List (List String)
  excluded : List String

def mentions (lowered : List Char) (word : String) : Bool := occursIn word.toList lowered

def SecurityRule.fires (rule : SecurityRule) (lowered : List Char) : Bool :=
  rule.required.all (fun group => group.any (mentions lowered)) &&
    rule.excluded.all fun word => !mentions lowered word

def reentrancyRule : SecurityRule where
  name := "reentrancy-pattern"
  description := "External calls without reentrancy protection detected"
  severity := "High"
  confidence := "Medium"
  required := [["call"], ["external"]]
  excluded := ["reentrancyguard"]

def uncheckedCallRule : SecurityRule where
  name := "unchecked-external-call"
  description := "External calls without proper error handling"
  severity := "Medium"
  confidence := "Medium"
  required := [["call"]]
  excluded := ["require", "assert"]

def overflowRule : SecurityRule where
  name := "integer-overflow"
  description := "Integer operations without overflow protection (pre-Solidity 0.8.0)"
  severity := "Medium"
  confidence := "High"
  required := [["uint"]]
  excluded := ["pragma solidity ^0.8", "pragma solidity 0.8"]

def delegatecallRule : SecurityRule where
  name := "dangerous-delegatecall"
  description := "Delegatecall detected - potential for code injection"
  severity := "High"
  confidence := "High"
  required := [["delegatecall"]]
  excluded := []

def originRule : SecurityRule where
  name := "tx-origin-usage"
  description := "tx.origin used instead of msg.sender - potential phishing vulnerability"
  severity := "Medium"
  confidence := "High"
  required := [["tx.origin"]]
  excluded := []

def timestampRule : SecurityRule where
  name := "timestamp-dependency"
  description := "Block timestamp used - vulnerable to miner manipulation"
  severity := "Low"
  confidence := "High"
  required := [["block.timestamp"]]
  excluded := []

def accessControlRule : SecurityRule where
  name := "access-control-issue"
  description := "External functions without access control modifiers"
  severity := "Medium"
  confidence := "Low"
  required := [["function"], ["external"]]
  excluded := ["modifier", "onlyowner"]

def killSwitchRule : SecurityRule where
  name := "selfdestruct"
  description := "Contract can be destroyed - potential loss of funds"
  severity := "High"
  confidence := "High"
  required := [["selfdestruct", "suicide"]]
  excluded := []

def securityRules : List SecurityRule :=
  [reentrancyRule, uncheckedCallRule, overflowRule, delegatecallRule, originRule, timestampRule,
    accessControlRule, killSwitchRule]

def securityRuleSource : String := "heuristic-security"

/-- A rule cannot point at a statement, so it reports the first line. -/
def SecurityRule.toDiagnostic (rule : SecurityRule) : Diagnostic where
  source := securityRuleSource
  category := .security
  name := .text rule.name
  description := .text rule.description
  severity := .text rule.severity
  confidence := .text rule.confidence
  function := .text "Multiple"

def firingRules (source : String) : List SecurityRule :=
  let lowered := lower source.toList
  securityRules.filter fun rule => rule.fires lowered

def securityScan (source : String) : List Diagnostic :=
  (firingRules source).map SecurityRule.toDiagnostic

def securityScanNote (diagnostics : List Diagnostic) : Journal.Entry :=
  ⟨.info, Journal.channelNamed "analyzer.HeuristicSecurityAnalyzer",
    "Heuristic security scan produced " ++ toString diagnostics.length ++ " issues"⟩

end SolidityAudit.Detection
