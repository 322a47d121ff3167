import SolidityAudit.Explorer.Lookup
import SolidityAudit.Proofs.Json.Documents
import SolidityAudit.Proofs.Json.Margins
import SolidityAudit.Proofs.Text.Split
import SolidityAudit.Proofs.Text.Wording

namespace SolidityAudit.Explorer

open Json (Value readMembers)
open Text

section Contents

/-- The last value of a name counts. -/
def publishedValue? (name : Wording) (members : Members) : Option Value :=
  Json.findMember? name members.reverse

/-- The content of a file, which is empty if it is missing. -/
def publishedContent (file : Members) : Wording :=
  match publishedValue? "content" file with
  | some (.text content) => content
  | _ => ""

/-- The contents of the files that are objects, each at the first place of its name. -/
def publishedContents (entries : Members) : List Wording :=
  (entries.map Prod.fst).eraseDups.filterMap fun name =>
    match publishedValue? name entries with
    | some (.object file) => some (publishedContent file)
    | _ => none

/-- The contents one after the other, with a line feed between any two. -/
def publishedText (entries : Members) : Wording :=
  .ofSymbols ([Symbol.scalar '\n'].intercalate ((publishedContents entries).map Wording.symbols))

/-- The contents that are given are texts. -/
def HasTexts (sources : Members) : Prop :=
  ∀ name file, (name, Value.object file) ∈ sources →
    ∀ content, Json.findMember? "content" file = some content → ∃ words, content = .text words

/-- The content that is read is the one that was published. -/
theorem content_readMembers {file : Members}
    (texts : ∀ content, Json.findMember? "content" (readMembers file) = some content →
      ∃ words, content = .text words) :
    (Json.findMember? "content" (readMembers file)).getD (.text "") =
      .text (publishedContent file) := by
  rw [Json.findMember?_readMembers] at texts ⊢
  unfold publishedContent publishedValue?
  cases published : Json.findMember? "content" file.reverse with
  | none => rfl
  | some content =>
      obtain ⟨words, same⟩ := texts content.settled (by rw [published]; rfl)
      rw [Json.Value.settled_eq_text] at same
      rw [same]
      rfl

/-- The content of an entry that is an object. -/
def entryContent? : Value → Option Value
  | .object file => some ((Json.findMember? "content" file).getD (.text ""))
  | _ => none

/-- The contents are taken from one entry after the other. -/
theorem entryContents_eq (sources : Members) :
    entryContents sources = sources.filterMap fun entry => entryContent? entry.2 := rfl

/-- The contents that are read are those that were published. -/
theorem entryContents_readMembers {entries : Members} (texts : HasTexts (readMembers entries)) :
    entryContents (readMembers entries) = (publishedContents entries).map .text := by
  have distinct : ((readMembers entries).map Prod.fst).Nodup := Json.mergeMembers_distinct _
  rw [entryContents_eq, Json.filterMap_names entryContent? distinct, Json.names_readMembers,
    publishedContents, List.map_filterMap]
  apply List.filterMap_congr
  intro name _
  have found := Json.findMember?_readMembers entries name
  rw [found, publishedValue?]
  cases published : Json.findMember? name entries.reverse with
  | none => rfl
  | some value =>
      rw [published] at found
      cases value with
      | object file =>
          rw [Option.map_some, Value.settled_object] at found ⊢
          have listed := Json.mem_of_findMember? found
          exact congrArg some (content_readMembers (texts name _ listed))
      | _ => rfl

/-- Contents that are texts are all taken. -/
theorem contentTexts_texts (position : Nat) (contents : List Wording) :
    contentTexts position (contents.map .text) = .ok contents := by
  induction contents generalizing position with
  | nil => rfl
  | cons content rest ih =>
      rw [List.map_cons, contentTexts, ih]
      rfl

/-- The contents are joined as they were published. -/
theorem joinedContents_readMembers {entries : Members}
    (texts : HasTexts (readMembers entries)) :
    joinedContents (readMembers entries) = .ok (publishedText entries) := by
  rw [joinedContents, entryContents_readMembers texts, contentTexts_texts, publishedText]
  refine congrArg Except.ok (Wording.symbols_injective ?_)
  rw [Wording.symbols_joined, Wording.symbols_ofSymbols]
  rfl

end Contents

section Forms

variable {source : Wording} {text : List Symbol} {value : Value} {sources : Members}

/-- What is read from a bundle is flattened. -/
theorem flatten_read [Host] (bundled : bundleText? source.symbols = some text)
    (reading : Json.read text = .ok value) (listed : bundleSources? value = some sources)
    {joined : Wording} (joins : joinedContents sources = .ok joined) :
    flatten source = .ok joined := by
  rw [flatten, bundled]
  simp only [reading, listed, joins]
  rfl

/-- Two braces start no value. -/
theorem read_doubleBrace [Host] (rest : List Symbol) :
    Json.read (.scalar '\x7b' :: .scalar '\x7b' :: rest) ≠ .ok value := by
  have room : ([] : List Json.Frame).length < Host.openContainers :=
    lt_of_lt_of_le (by decide) Host.reportLevels_le
  rw [Json.read, Json.tokens_openObject, Json.tokens_openObject,
    Json.run_step _ (Json.step_openObject room)]
  rintro ⟨⟩

/-- An object is the bundle itself. -/
theorem bundleText?_plain [Host] {others : List Symbol}
    (trimmed : trimBy Symbol.isBlank text = .scalar '\x7b' :: others)
    (reading : Json.read (.scalar '\x7b' :: others) = .ok value) :
    bundleText? text = some (.scalar '\x7b' :: others) := by
  rw [bundleText?, trimmed]
  split
  · next same =>
    cases same
    exact absurd reading (read_doubleBrace _)
  · next same =>
    cases same
    rfl
  · next other => exact (other _ rfl).elim

/-- A bundle in a second pair of braces is restored. -/
theorem bundleText?_wrapped {others : List Symbol}
    (trimmed : trimBy Symbol.isBlank text =
      .scalar '\x7b' :: (.scalar '\x7b' :: others ++ [.scalar '\x7d'])) :
    bundleText? text = some (.scalar '\x7b' :: others) := by
  rw [bundleText?, trimmed]
  exact congrArg some (slice_inner _ (.scalar '\x7d') (.scalar '\x7b' :: others))

/-- Without an opening brace there is no bundle. -/
theorem bundleText?_other
    (other : (text.dropWhile Symbol.isBlank).head? ≠ some (.scalar '\x7b')) :
    bundleText? text = none := by
  have unlike {rest : List Symbol} : trimBy Symbol.isBlank text ≠ .scalar '\x7b' :: rest := by
    intro trimmed
    obtain ⟨tail, kept⟩ := List.rdropWhile_prefix Symbol.isBlank
      (l := trimLeftBy Symbol.isBlank text)
    rw [← trimRightBy_eq, ← trimBy, trimmed] at kept
    exact other (by rw [← trimLeftBy, ← kept]; rfl)
  rw [bundleText?]
  split
  · next same => exact absurd same unlike
  · next same => exact absurd same unlike
  · rfl

end Forms

/-- A text of white space has nothing else among its symbols. -/
theorem isBlank_symbols {text : Wording} (blank : text.isBlank = true) :
    ∀ symbol ∈ text.symbols, symbol.isBlank = true := by
  cases text with
  | broken text => cases blank
  | plain text =>
      intro symbol inside
      obtain ⟨character, listed, rfl⟩ := List.mem_map.mp inside
      exact List.all_eq_true.mp blank character listed

/-- A bundle is flattened to the contents of its files, each at the first place of its name and with
its last value, in both forms. A source that starts otherwise is kept. -/
theorem flatten_published [Host] :
    (∀ (text : Wording) (members sources : Members),
      text.symbols.head? = some (.scalar '\x7b') →
      Json.readString text = .ok (.object members) →
      Json.findMember? "sources" members = some (.object sources) → HasTexts sources →
      ∃ document entries,
        (∀ written, Json.Writes text.symbols written ↔ written = .object document) ∧
        publishedValue? "sources" document = some (.object entries) ∧
        ∀ before after : Wording, before.isBlank = true → after.isBlank = true →
          flatten (before ++ text ++ after) = .ok (publishedText entries) ∧
            flatten (before ++ ("\x7b" ++ text ++ "\x7d") ++ after) =
              .ok (publishedText entries)) ∧
    ∀ source : Wording, (source.symbols.dropWhile Symbol.isBlank).head? ≠ some (.scalar '\x7b') →
      flatten source = .ok source := by
  refine ⟨?_, fun source other => by rw [flatten, bundleText?_other other]⟩
  intro text members sources opened reading listed texts
  obtain ⟨written, taken, settled⟩ := Json.read_written reading
  obtain ⟨document, rfl, rfl⟩ := Json.Value.settled_eq_object.mp settled
  obtain ⟨published, given, same⟩ := Option.map_eq_some_iff.mp
    ((Json.findMember?_readMembers document "sources").symm.trans listed)
  obtain ⟨entries, rfl, rfl⟩ := Json.Value.settled_eq_object.mp same
  have only : ∀ written, Json.Writes text.symbols written ↔ written = .object document := by
    intro written
    exact ⟨fun writes => writes.unique taken, fun same => same ▸ taken⟩
  refine ⟨document, entries, only, given, ?_⟩
  intro before after blankBefore blankAfter
  have joins := joinedContents_readMembers texts
  have bundle : bundleSources? (.object (readMembers document)) = some (readMembers entries) := by
    simp only [bundleSources?, listed]
  have inked : Symbol.isBlank (.scalar '\x7b') = false := by decide
  obtain ⟨others, shape⟩ : ∃ others, text.symbols = .scalar '\x7b' :: others :=
    ⟨text.symbols.tail, List.eq_cons_of_mem_head? opened⟩
  constructor
  · obtain ⟨kept, cut⟩ := trimRightBy_head inked others
    have trimmed : trimBy Symbol.isBlank (before ++ text ++ after).symbols =
        .scalar '\x7b' :: kept := by
      rw [Wording.symbols_append, Wording.symbols_append, shape, ← cut]
      exact trimBy_surrounded inked others (isBlank_symbols blankBefore)
        (isBlank_symbols blankAfter)
    have readTrimmed := Json.read_trimRight reading
    rw [shape, cut] at readTrimmed
    exact flatten_read (bundleText?_plain trimmed readTrimmed) readTrimmed bundle joins
  · have trimmed : trimBy Symbol.isBlank
        (before ++ (Wording.plain "\x7b" ++ text ++ Wording.plain "\x7d") ++ after).symbols =
          .scalar '\x7b' :: (.scalar '\x7b' :: others ++ [.scalar '\x7d']) := by
      simp only [Wording.symbols_append, shape]
      exact (trimBy_surrounded inked (.scalar '\x7b' :: others ++ [.scalar '\x7d'])
        (isBlank_symbols blankBefore) (isBlank_symbols blankAfter)).trans
          (trimRightBy_concat (.scalar '\x7b' :: .scalar '\x7b' :: others) (by decide))
    rw [Json.readString, shape] at reading
    exact flatten_read (bundleText?_wrapped trimmed) reading bundle joins

section Standard

attribute [local instance] Host.standard

/-- A name of one lone surrogate. -/
def loneName (offset : Fin 0x800) : Wording := .ofSymbols [.lone offset]

/-- Two files share a name, one is no object, and two names differ in their surrogates alone. -/
def repeatedEntries : Members :=
  [("a", .object [("content", .text "x")]), ("n", .null), (loneName ⟨0, by decide⟩, .object []),
    ("a", .object [("content", .text "y")]),
    (loneName ⟨1, by decide⟩, .object [("content", .text "z")])]

/-- The text of a bundle with these entries. -/
def repeatedBundle : String :=
  "\x7b\"sources\":\x7b\"a\":\x7b\"content\":\"x\"\x7d,\"n\":null,\"\\ud800\":\x7b\x7d," ++
    "\"a\":\x7b\"content\":\"y\"\x7d,\"\\ud801\":\x7b\"content\":\"z\"\x7d\x7d\x7d\t"

/-- The bundle is flattened in both forms, and a source that starts otherwise is kept. -/
theorem flatten_published_repeated :
    Json.Writes (Wording.plain repeatedBundle).symbols
        (.object [("sources", .object repeatedEntries)]) ∧
      publishedText repeatedEntries = "y\n\nz" ∧
      flatten ("\u3000" ++ repeatedBundle ++ "\n") = .ok (publishedText repeatedEntries) ∧
      flatten ("\u3000" ++ ("\x7b" ++ repeatedBundle ++ "\x7d") ++ "\n") =
        .ok (publishedText repeatedEntries) ∧
      flatten "\u3000contract A" = .ok "\u3000contract A" := by
  have writes : Json.Writes (Wording.plain repeatedBundle).symbols
      (.object [("sources", .object repeatedEntries)]) := by
    rfl
  have reading : Json.readString repeatedBundle = .ok (.object [("sources", .object [
      ("a", .object [("content", .text "y")]), ("n", .null), (loneName ⟨0, by decide⟩, .object []),
      (loneName ⟨1, by decide⟩, .object [("content", .text "z")])])]) := by
    rfl
  have texts : HasTexts
      [("a", .object [("content", .text "y")]), ("n", .null), (loneName ⟨0, by decide⟩, .object []),
        (loneName ⟨1, by decide⟩, .object [("content", .text "z")])] := by
    intro name file listed content found
    simp only [List.mem_cons, Prod.mk.injEq, Value.object.injEq, reduceCtorEq, and_false,
      List.not_mem_nil, or_false, false_or] at listed
    rcases listed with ⟨-, rfl⟩ | ⟨-, rfl⟩ | ⟨-, rfl⟩
    · cases found
      exact ⟨"y", rfl⟩
    · cases found
    · cases found
      exact ⟨"z", rfl⟩
  obtain ⟨document, entries, only, given, flat⟩ :=
    flatten_published.1 repeatedBundle _ _ rfl reading rfl texts
  cases (only _).mp writes
  cases given
  obtain ⟨plain, wrapped⟩ := flat "\u3000" "\n" (by decide) (by decide)
  exact ⟨writes, by decide, plain, wrapped, flatten_published.2 _ (by decide)⟩

end Standard

end SolidityAudit.Explorer
