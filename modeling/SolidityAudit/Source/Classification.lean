/-
This file names the kind of a contract and the unsafe constructs in it by the words of its
source text.
-/

import SolidityAudit.Text.LetterCase
import SolidityAudit.Text.Piece

namespace SolidityAudit.Source

open Text

inductive ContractCategory where
  | erc20
  | erc721
  | erc1155
  | defi
  | governance
  | token
  | custom
  deriving DecidableEq, Repr

def ContractCategory.label : ContractCategory → String
  | .erc20 => "ERC20"
  | .erc721 => "ERC721"
  | .erc1155 => "ERC1155"
  | .defi => "DeFi"
  | .governance => "Governance"
  | .token => "Token"
  | .custom => "Custom"

def ContractCategory.all : List ContractCategory :=
  [.erc20, .erc721, .erc1155, .defi, .governance, .token, .custom]

def ContractCategory.ofLabel? (label : String) : Option ContractCategory :=
  ContractCategory.all.find? fun category => category.label == label

/-- The words of a category, in the order in which categories are tried. -/
def categoryMarkers : List (ContractCategory × List String) := [
  (.erc20, ["erc20", "ierc20"]),
  (.erc721, ["erc721", "ierc721"]),
  (.erc1155, ["erc1155", "ierc1155"]),
  (.defi, ["uniswap", "pancakeswap", "amm"]),
  (.governance, ["governance", "dao"]),
  (.token, ["nft", "token"])]

def mentionsAny (lowered : List Char) (markers : List String) : Bool :=
  markers.any fun marker => occursIn marker.toList lowered

/-- The first category with a word in the text. -/
def categoryOf (source : String) : ContractCategory :=
  let lowered := lower source.toList
  match categoryMarkers.find? fun entry => mentionsAny lowered entry.2 with
  | some (category, _) => category
  | none => .custom

/-- The words of each unsafe construct and what is said about it. -/
def unsafeMarkers : List (List String × String) := [
  (["selfdestruct", "suicide"], "Kill Switch - Contract can be destroyed"),
  (["delegatecall"], "Delegate Call - Potential for code injection"),
  (["assembly"], "Assembly Code - Low-level operations"),
  (["tx.origin"], "tx.origin Usage - Potential phishing vulnerability"),
  (["block.timestamp"], "Block Timestamp - Time manipulation risk"),
  (["block.number"], "Block Number - Block manipulation risk")]

def unsafeConstructs (source : String) : List String :=
  let lowered := lower source.toList
  (unsafeMarkers.filter fun entry => mentionsAny lowered entry.1).map Prod.snd

end SolidityAudit.Source
