/-
This file builds the value of a JSON text from its tokens.
-/

import SolidityAudit.Json.Token

namespace SolidityAudit.Json

open Text (Symbol Wording scalars)

inductive Container where
  | array
  | object
  deriving DecidableEq, Repr

/-- Why a text is not read. -/
inductive ReadFault where
  | malformed
  | oversized (limit digitCount : Nat)
  | tooDeep (container : Container)
  deriving DecidableEq, Repr

/-- A container that is still open holds what was read so far, in reading order for the
members and in reverse for the items. -/
inductive Frame where
  | array (items : List Value)
  | object (members : List (Wording × Value)) (name : Wording)

/-- What the next token has to be. -/
inductive Expectation where
  | value
  | valueOrCloseArray
  | nameOrCloseObject (members : List (Wording × Value))
  | name (members : List (Wording × Value))
  | colon (members : List (Wording × Value)) (name : Wording)
  | afterValue (value : Value)

structure State where
  expectation : Expectation
  frames : List Frame

/-- A finished value goes to the container around it once its separator is seen. -/
def State.afterSeparator (value : Value) (frames : List Frame) : Token → Except ReadFault State
  | .comma => match frames with
      | .array items :: outer => .ok ⟨.value, .array (value :: items) :: outer⟩
      | .object members name :: outer => .ok ⟨.name (putMember name value members), outer⟩
      | [] => .error .malformed
  | .closeArray => match frames with
      | .array items :: outer => .ok ⟨.afterValue (.array (value :: items).reverse), outer⟩
      | _ => .error .malformed
  | .closeObject => match frames with
      | .object members name :: outer =>
          .ok ⟨.afterValue (.object (putMember name value members)), outer⟩
      | _ => .error .malformed
  | _ => .error .malformed

/-- One more container may be opened inside those that are open. -/
def checkNesting [Host] (frames : List Frame) (container : Container) : Except ReadFault Unit :=
  if frames.length < Host.openContainers then .ok () else .error (.tooDeep container)

def State.startValue [Host] (frames : List Frame) : Token → Except ReadFault State
  | .scalar value => .ok ⟨.afterValue value, frames⟩
  | .text value => .ok ⟨.afterValue (.text value), frames⟩
  | .openArray => do
      checkNesting frames .array
      return ⟨.valueOrCloseArray, .array [] :: frames⟩
  | .openObject => do
      checkNesting frames .object
      return ⟨.nameOrCloseObject [], frames⟩
  | .oversized limit digitCount => .error (.oversized limit digitCount)
  | _ => .error .malformed

def State.startName (members : List (Wording × Value)) (frames : List Frame) :
    Token → Except ReadFault State
  | .text name => .ok ⟨.colon members name, frames⟩
  | _ => .error .malformed

def State.step [Host] (state : State) (token : Token) : Except ReadFault State :=
  match state.expectation with
  | .value => State.startValue state.frames token
  | .valueOrCloseArray => match token, state.frames with
      | .closeArray, .array _ :: outer => .ok ⟨.afterValue (.array []), outer⟩
      | token, frames => State.startValue frames token
  | .nameOrCloseObject members => match token with
      | .closeObject => .ok ⟨.afterValue (.object members), state.frames⟩
      | token => State.startName members state.frames token
  | .name members => State.startName members state.frames token
  | .colon members name => match token with
      | .colon => .ok ⟨.value, .object members name :: state.frames⟩
      | _ => .error .malformed
  | .afterValue value => State.afterSeparator value state.frames token

def State.run [Host] : State → List Token → Except ReadFault State
  | state, [] => .ok state
  | state, token :: rest => do
      let next ← state.step token
      State.run next rest

/-- A text is read when exactly one value is complete and no container is open. -/
def State.result : State → Except ReadFault Value
  | ⟨.afterValue value, []⟩ => .ok value
  | _ => .error .malformed

def read [Host] (text : List Symbol) : Except ReadFault Value := do
  let state ← State.run ⟨.value, []⟩ (tokens text)
  state.result

def readString [Host] (text : Wording) : Except ReadFault Value := read text.symbols

end SolidityAudit.Json
