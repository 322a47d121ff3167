import SolidityAudit.Interface.Signature
import SolidityAudit.Proofs.Source.Variables

namespace SolidityAudit.Interface

open Json (Value)
open Source

/-- It takes nothing, changes nothing and has one result of the type of the variable. -/
structure IsAccessor (declaration : VariableDeclaration) (entry : Entry) : Prop where
  function : entry.kind = .function
  name : entry.name = .text declaration.name
  inputs : entry.inputs = []
  mutability : entry.mutability = .text "view"
  output : ∃ output, entry.outputs = [output] ∧ output.name = .text "" ∧
    output.type = .text (.plain (if declaration.type == "uint" then "uint256"
      else if declaration.type == "int" then "int256" else declaration.type))

/-- What a variable anchor reads, as the inventory lists it. -/
def declared (span : Span VariableHead) : VariableDeclaration :=
  ⟨String.ofList span.value.name, String.ofList span.value.type⟩

/-- The entry of a variable is its accessor. -/
theorem accessorEntry_isAccessor (span : Span VariableHead) :
    IsAccessor (declared span) (accessorEntry span.value) :=
  ⟨rfl, rfl, rfl, rfl, _, rfl, rfl, rfl⟩

/-- The last entries are the accessors of the public variables. -/
theorem accessorEntries_accessors (text : List Char) :
    List.Forall₂ (fun span entry => IsAccessor (declared span) entry)
      ((variableAnchor.spans text).filter fun span => span.value.visibility == some "public")
      (accessorEntries text) := by
  rw [accessorEntries, publicVariableAnchor_spans, List.forall₂_map_right_iff, List.forall₂_same]
  intro span listed
  exact accessorEntry_isAccessor span

/-- Only the entries of events are events. -/
theorem ofSource_events (source : String) :
    (ofSource source).filter Entry.isEvent = eventEntries source.toList := by
  have functions : (functionEntries source.toList).filter Entry.isEvent = [] := by
    rw [List.filter_eq_nil_iff]
    intro entry listed
    obtain ⟨span, -, rfl⟩ := List.mem_map.mp listed
    exact Bool.false_ne_true
  have accessors : (accessorEntries source.toList).filter Entry.isEvent = [] := by
    rw [List.filter_eq_nil_iff]
    intro entry listed
    obtain ⟨span, -, rfl⟩ := List.mem_map.mp listed
    exact Bool.false_ne_true
  have events : (eventEntries source.toList).filter Entry.isEvent = eventEntries source.toList := by
    rw [List.filter_eq_self]
    intro entry listed
    obtain ⟨span, -, rfl⟩ := List.mem_map.mp listed
    rfl
  rw [ofSource, List.filter_append, List.filter_append, functions, events, accessors,
    List.nil_append, List.append_nil]

/-- The event entries carry the names of the listed events, and the entries after them are the
accessors of the public variables, all in their order. -/
theorem ofSource_declares (source : String) :
    let text := source.toList
    let spans := variableAnchor.spans text
    ((ofSource source).filter Entry.isEvent).map Entry.name =
      (Inventory.ofSource source).events.map (fun name => .text (.plain name)) ∧
    (Inventory.ofSource source).stateVariables = spans.map declared ∧
    (∀ span ∈ spans, span.value.visibility = some "public" ↔
      text.extract span.start span.stop ∈
        variableTexts ⟨span.value.type, some "public", span.value.name⟩) ∧
    ∃ accessors, ofSource source = functionEntries text ++ eventEntries text ++ accessors ∧
      List.Forall₂ (fun span entry => IsAccessor (declared span) entry)
        (spans.filter fun span => span.value.visibility == some "public") accessors := by
  intro text spans
  refine ⟨?_, rfl, ?_, accessorEntries text, rfl, accessorEntries_accessors text⟩
  · rw [ofSource_events]
    simp [eventEntries, Inventory.ofSource, eventsOf, Entry.event]
  · intro span listed
    exact visibility_iff_form listed "public"

end SolidityAudit.Interface
