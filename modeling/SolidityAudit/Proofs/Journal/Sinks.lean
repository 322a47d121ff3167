import SolidityAudit.Journal.Registry
import SolidityAudit.Proofs.Files.Contents

namespace SolidityAudit.Journal

open Files (Disk Location)
open Text (Wording)

/-- All files that a channel writes to are at the given places. -/
def Channel.WritesTo (places : List Location) (channel : Channel) : Prop :=
  ∀ place, Sink.file place ∈ channel.sinks → place ∈ places

/-- All channels write to the given places. -/
def Registry.WritesTo (places : List Location) (registry : Registry) : Prop :=
  ∀ channel ∈ registry.channels, channel.WritesTo places

/-- A new registry has no sinks to write to. -/
theorem Registry.writesTo_fresh (disk : Disk) : Registry.WritesTo [] { disk := disk } := by
  intro channel listed place sink
  cases List.mem_singleton.mp listed
  cases sink

/-- What writes to some places writes to more. -/
theorem Registry.WritesTo.mono {places wider : List Location} {registry : Registry}
    (writes : registry.WritesTo places) (within : places ⊆ wider) : registry.WritesTo wider :=
  fun channel listed place sink => within (writes channel listed place sink)

/-- A channel is put in the place of another. -/
theorem mem_putChannel {channel other : Channel} {channels : List Channel}
    (listed : other ∈ putChannel channel channels) : other = channel ∨ other ∈ channels := by
  induction channels with
  | nil => exact .inl (List.mem_singleton.mp listed)
  | cons first rest ih =>
      unfold putChannel at listed
      split at listed
      · rcases List.mem_cons.mp listed with same | later
        · exact .inl same
        · exact .inr (List.mem_cons_of_mem first later)
      · rcases List.mem_cons.mp listed with same | later
        · exact .inr (List.mem_cons.mpr (.inl same))
        · exact (ih later).imp_right (List.mem_cons_of_mem first)

/-- An adopted channel keeps its sinks. -/
theorem channel_adoptedBy_sinks (name : String) (channel : Channel) :
    (channel.adoptedBy name).sinks = channel.sinks := by
  unfold Channel.adoptedBy
  simp only
  split <;> rfl

/-- Using a name leaves the disk alone. -/
theorem Registry.use_disk (registry : Registry) (name : String) :
    (registry.use name).disk = registry.disk := by
  unfold use
  split <;> rfl

/-- The later registry writes to the given places alone, and no other file has changed on the
way to it. -/
structure Registry.LogsTo (places : List Location) (registry after : Registry) : Prop where
  writes : after.WritesTo places
  files : registry.disk.SameFiles places after.disk

/-- Two stretches write where each of them does. -/
theorem Registry.LogsTo.trans {places : List Location} {registry middle after : Registry}
    (first : registry.LogsTo places middle) (second : middle.LogsTo places after) :
    registry.LogsTo places after :=
  ⟨second.writes, first.files.trans second.files⟩

section Steps

variable {places : List Location} {registry : Registry} (writes : registry.WritesTo places)

include writes

/-- A registry that nothing happens to keeps all files. -/
theorem Registry.WritesTo.logsTo_self : registry.LogsTo places registry :=
  ⟨writes, Disk.sameFiles_self places registry.disk⟩

/-- A channel that is not in use yet has no sinks. -/
theorem Registry.WritesTo.channel (name : String) : (registry.channel name).WritesTo places := by
  unfold Registry.channel
  cases found : registry.channel? name with
  | none =>
      intro place sink
      cases sink
  | some channel => exact writes channel (List.mem_of_find?_eq_some found)

/-- A channel that is put writes where it did. -/
theorem Registry.WritesTo.put {channel : Channel} (kept : channel.WritesTo places) :
    (registry.put channel).WritesTo places := by
  intro other listed
  rcases mem_putChannel listed with same | present
  · rw [same]
    exact kept
  · exact writes other present

/-- A name in use writes to no new place. -/
theorem Registry.WritesTo.use (name : String) : registry.LogsTo places (registry.use name) := by
  unfold Registry.use
  split
  · exact writes.logsTo_self
  · refine ⟨?_, Disk.sameFiles_self places registry.disk⟩
    intro channel listed
    rcases List.mem_append.mp listed with adopted | new
    · obtain ⟨old, present, rfl⟩ := List.mem_map.mp adopted
      intro place sink
      rw [channel_adoptedBy_sinks] at sink
      exact writes old present place sink
    · rw [List.mem_singleton.mp new]
      exact writes.channel name

/-- Forgotten decisions change no sink. -/
theorem Registry.WritesTo.forgetDecisions : registry.forgetDecisions.WritesTo places := by
  intro channel listed
  obtain ⟨old, present, rfl⟩ := List.mem_map.mp listed
  exact writes old present

/-- A decision touches no file. -/
theorem Registry.WritesTo.decide (name : String) (rank : Int) :
    registry.LogsTo places (registry.decide name rank).1 := by
  unfold Registry.decide
  simp only
  split
  · exact writes.logsTo_self
  · exact ⟨writes.put (writes.channel name), Disk.sameFiles_self places registry.disk⟩

/-- The channels above write to the given places too. -/
theorem Registry.WritesTo.chainWithin (bound : Nat) {channel : Channel}
    (kept : channel.WritesTo places) :
    ∀ other ∈ registry.chainWithin bound channel, other.WritesTo places := by
  induction bound generalizing channel with
  | zero =>
      intro other listed
      cases listed
  | succ bound ih =>
      intro other listed
      rw [Registry.chainWithin] at listed
      rcases List.mem_cons.mp listed with same | above
      · rw [same]
        exact kept
      · cases parent : channel.parent with
        | none =>
            rw [parent] at above
            cases above
        | some name =>
            rw [parent] at above
            exact ih (writes.channel name) other above

variable [Host]

/-- A line goes to the file of its sink or to none. -/
theorem Registry.WritesTo.emit (text : Wording) {sink : Sink}
    (kept : ∀ place, sink = .file place → place ∈ places) :
    registry.LogsTo places (registry.emit text sink) := by
  cases sink with
  | stream => exact ⟨writes, Disk.sameFiles_self places registry.disk⟩
  | file location =>
      have inside : [location] ⊆ places := by simpa using kept location rfl
      cases text with
      | plain text => exact ⟨writes, (registry.disk.sameFiles_append location text).mono inside⟩
      | broken text => exact ⟨writes, Disk.sameFiles_self places registry.disk⟩

/-- A line goes to the files of its sinks. -/
theorem Registry.WritesTo.emitAll (text : Wording) {sinks : List Sink}
    (kept : ∀ sink ∈ sinks, ∀ place, sink = .file place → place ∈ places) :
    registry.LogsTo places
      (sinks.foldl (fun registry sink => registry.emit text sink) registry) := by
  induction sinks generalizing registry with
  | nil => exact writes.logsTo_self
  | cons sink rest ih =>
      have first := writes.emit text (kept sink List.mem_cons_self)
      have others := ih first.writes fun other listed =>
        kept other (List.mem_cons_of_mem sink listed)
      exact first.trans others

/-- One entry changes no file but those of the sinks. -/
theorem Registry.WritesTo.record (entry : Entry) :
    registry.LogsTo places (registry.record entry) := by
  have used := writes.use entry.channel
  have decided := used.trans (used.writes.decide entry.channel entry.level.rank)
  unfold Registry.record Registry.log
  rcases ended : (registry.use entry.channel).decide entry.channel entry.level.rank with
    ⟨middle, decision⟩
  rw [ended] at decided
  cases decision with
  | false => exact decided
  | true =>
      refine decided.trans (decided.writes.emitAll _ ?_)
      intro sink listed place isFile
      obtain ⟨channel, above, held⟩ := List.mem_flatMap.mp listed
      rw [isFile] at held
      have start := decided.writes.channel entry.channel
      exact decided.writes.chainWithin _ start channel above place held

/-- Neither do many. -/
theorem Registry.WritesTo.recordAll (entries : List Entry) :
    registry.LogsTo places (registry.recordAll entries) := by
  induction entries generalizing registry with
  | nil => exact writes.logsTo_self
  | cons entry rest ih =>
      have first := writes.record entry
      exact first.trans (ih first.writes)

end Steps

/-- The place of the file for the lines, if there is one. -/
def logPlaces (disk : Disk) : (file : Option String) → List Location
  | none | some "" => []
  | some path => (disk.locate (disk.absolutePath path)).toOption.toList

/-- The place of a file that was found. -/
theorem logPlaces_file {disk : Disk} {path : String} {location : Location}
    (nonempty : path ≠ "") (located : disk.locate (disk.absolutePath path) = .ok location) :
    logPlaces disk (some path) = [location] := by
  unfold logPlaces
  split
  · next absent => cases absent
  · next empty => exact absurd (Option.some.inj empty) nonempty
  · next given =>
    cases given
    rw [located]
    rfl

/-- Absolute paths depend on the current directory alone. -/
theorem absolutePath_congr {disk other : Disk} (same : other.current = disk.current)
    (path : String) : other.absolutePath path = disk.absolutePath path := by
  simp only [Disk.absolutePath, Disk.absoluteNames, Disk.startOf_congr same]

variable [Host]

/-- A sink that was opened is a file, and no other one was touched. -/
theorem openSink_opened {disk after : Disk} (tree : disk.IsTree) {path : String} {sink : Sink}
    (opened : openSink disk path = (after, .ok sink)) :
    ∃ location, sink = .file location ∧
      disk.Opened (disk.absolutePath path) after location := by
  have prepared := tree.makeDirectoriesWithin Host.nestedDirectories
    (Wording.plain (Files.directoryPart (disk.absolutePath path))).symbols
  have files := Disk.sameFiles_makeDirectoriesWithin Host.nestedDirectories disk
    (Wording.plain (Files.directoryPart (disk.absolutePath path))).symbols
  unfold openSink Disk.makeDirectories at opened
  simp only at opened
  rcases made : Disk.makeDirectoriesWithin Host.nestedDirectories disk
    (Wording.plain (Files.directoryPart (disk.absolutePath path))).symbols with
    ⟨middle, outcome⟩
  rw [made] at prepared files opened
  cases outcome with
  | error fault => cases opened
  | ok value =>
      simp only at opened
      cases attempt : middle.openForAppending (disk.absolutePath path) with
      | error fault => simp [attempt] at opened
      | ok result =>
          rw [attempt] at opened
          cases opened
          have last := prepared.tree.openForAppending attempt
          exact ⟨result.2, rfl, last.after prepared.grown.current_eq files⟩

/-- Once the lines have their sinks, only the file for them has been touched. -/
theorem Registry.setUp_ready {registry after : Registry} (writes : registry.WritesTo [])
    (tree : registry.disk.IsTree) {name rankName : String} {file : Option String}
    (ready : registry.setUp name rankName file = (after, .ok ())) :
    registry.LogsTo (logPlaces after.disk file) after ∧ after.disk.IsTree := by
  have forgotten := (writes.use name).writes.forgetDecisions
  have sameDisk : (registry.use name).forgetDecisions.disk = registry.disk :=
    registry.use_disk name
  unfold setUp at ready
  simp only at ready
  generalize (registry.use name).forgetDecisions = middle at forgotten sameDisk ready
  have unfiled {channel : Channel} (kept : channel.WritesTo []) :
      registry.LogsTo (logPlaces (middle.put channel).disk file) (middle.put channel) ∧
        (middle.put channel).disk.IsTree := by
    change registry.LogsTo (logPlaces middle.disk file) _ ∧ middle.disk.IsTree
    rw [sameDisk]
    refine ⟨⟨(forgotten.put kept).mono (List.nil_subset _), ?_⟩, tree⟩
    change registry.disk.SameFiles _ middle.disk
    rw [sameDisk]
    exact Disk.sameFiles_self _ _
  have streamed (rank : Option Nat) : Channel.WritesTo []
      { middle.channel name with rank := rank, sinks := [.stream] } := by
    intro place sink
    simp at sink
  cases ranked : rankNamed rankName with
  | error fault =>
      rw [ranked] at ready
      cases ready
  | ok rank =>
      simp only [ranked] at ready
      split at ready
      · cases ready
        exact unfiled (forgotten.channel name)
      · split at ready
        · cases ready
          exact unfiled (streamed _)
        · cases ready
          exact unfiled (streamed _)
        · next path nonempty =>
          rcases opened : openSink middle.disk path with ⟨disk, outcome⟩
          rw [opened] at ready
          cases outcome with
          | error fault => cases ready
          | ok sink =>
              cases ready
              rw [sameDisk] at opened
              obtain ⟨location, rfl, result⟩ := openSink_opened tree opened
              have located := result.located
              rw [← absolutePath_congr result.current path] at located
              have places := logPlaces_file (fun empty => nonempty (by rw [empty])) located
              refine ⟨⟨?_, ?_⟩, result.tree⟩
              · change Registry.WritesTo (logPlaces disk (some path)) _
                rw [places]
                refine Registry.WritesTo.put (forgotten.mono (List.nil_subset _)) ?_
                intro place sink
                simpa using sink
              · change registry.disk.SameFiles (logPlaces disk (some path)) disk
                rw [places]
                exact result.files

end SolidityAudit.Journal
