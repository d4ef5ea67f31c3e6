import PermissionScreen.Format.Config
import PermissionScreen.Format.Group
import PermissionScreen.Proofs.Json.Recovery

/-!
Objects that leave fields out.

What an object of settings or of messages leaves out, and what is left out of a group but for its
name, is as it is by default: where a value is made, and where one is read, the defaults are the same.
`partial_objects_override` says so of every text of such an object, with its fields in any order and
others among them.
-/

namespace PermissionScreen

open Json Json.Fields

variable {α : Type} {names : List String} {name : String} {members : List (Option String × Tree)}
  {denotes : Tree → α → Prop} {decode : Decoder α}

/-! ### Fields -/

/-- What is given for a field denotes a value. -/
def HasType (members : List (Option String × Tree)) (name : String) (denotes : Tree → α → Prop) :
    Prop :=
  ∀ tree, (some name, tree) ∈ members → ∃ value, denotes tree value

/-- The value of a field is the one that is given, and the default if none is. -/
structure Overrides (members : List (Option String × Tree)) (name : String)
    (denotes : Tree → α → Prop) (default value : α) : Prop where
  given : ∀ tree, (some name, tree) ∈ members → denotes tree value
  kept : (∀ tree, (some name, tree) ∉ members) → value = default

/-- A tree that is written for a value. -/
def Writes (encode : α → Tree) (tree : Tree) (value : α) : Prop := tree = encode value

/-- A tree that names a value: its name, with or without a null for the data that it lacks. -/
def Names (nameOf : α → String) (tree : Tree) (value : α) : Prop :=
  tree = .text (nameOf value) ∨ tree = .record [(nameOf value, .null)]

/-- What is given for a field is decoded. -/
def Decodes (members : List (Option String × Tree)) (name : String) (denotes : Tree → α → Prop)
    (decode : Decoder α) : Prop :=
  ∀ tree, (some name, tree) ∈ members → ∃ value, denotes tree value ∧ decode tree = .ok value

theorem decodes_of_recovers {encode : α → Tree}
    (recovers : ∀ value, Recovers decode (encode value) value)
    (hasType : HasType members name (Writes encode)) :
    Decodes members name (Writes encode) decode := by
  intro tree mem
  obtain ⟨value, rfl⟩ := hasType tree mem
  exact ⟨value, rfl, (recovers value).decodes⟩

theorem decodes_of_names {all : List α} {nameOf : α → String} (distinct : (all.map nameOf).Nodup)
    (complete : ∀ value, value ∈ all) (hasType : HasType members name (Names nameOf)) :
    Decodes members name (Names nameOf)
      (decodeChoice (all.map fun value => .unit (nameOf value) value)) := by
  intro tree mem
  obtain ⟨value, named⟩ := hasType tree mem
  refine ⟨value, named, ?_⟩
  rcases named with rfl | rfl
  · exact (recovers_name distinct (complete value)).decodes
  · have listed : Variant.unit (nameOf value) value ∈
        all.map fun value => Variant.unit (nameOf value) value :=
      List.mem_map_of_mem (complete value)
    refine (Recovers.carrying ?_ listed ⟨.null, rfl⟩).decodes
    rwa [List.map_map]

/-- A field that is given at most once has such a value, and it is taken. -/
theorem exists_overrides (gives : Gives names members) (known : name ∈ names)
    (decodes : Decodes members name denotes decode) (default : α) :
    ∃ value, Overrides members name denotes default value ∧
      (withDefault name decode default).Takes members value := by
  by_cases given : ∃ tree, (some name, tree) ∈ members
  · obtain ⟨tree, mem⟩ := given
    obtain ⟨value, denoted, decoded⟩ := decodes tree mem
    refine ⟨value, ⟨fun other otherMem => ?_, fun missing => ?_⟩,
      takes_of_mem gives known mem decoded⟩
    · rwa [gives.eq_of_mem known otherMem mem]
    · exact absurd mem (missing tree)
  · have missing := not_exists.mp given
    exact ⟨default, ⟨fun tree mem => absurd mem (missing tree), fun _ => rfl⟩,
      takes_of_absent missing⟩

theorem ClockStyle.mem_all (style : ClockStyle) : style ∈ all := by cases style <;> decide

theorem Subtitle.mem_all (subtitle : Subtitle) : subtitle ∈ all := by cases subtitle <;> decide

/-! ### Messages -/

namespace Messages

/-- Some messages, each with a text and at most once. -/
structure Partial (members : List (Option String × Tree)) : Prop where
  gives : Gives (Message.all.map Message.key) members
  texts : ∀ message : Message, HasType members message.key (Writes .text)

/-- An object of texts, as far as it is of messages. -/
theorem Partial.of_named {members : List (String × Tree)}
    (gives : Gives (Message.all.map Message.key) (named members))
    (texts : ∀ member ∈ members, member.1 ∈ Message.all.map Message.key →
      ∃ text, member.2 = .text text) : Partial (named members) where
  gives := gives
  texts message tree mem := by
    have known : message.key ∈ Message.all.map Message.key := List.mem_map_of_mem message.mem_all
    exact texts _ (mem_named_iff.mp mem) known

/-- The English table, but for the messages that are given. -/
def Overridden (messages : Messages) (members : List (Option String × Tree)) : Prop :=
  ∀ message : Message, Overrides members message.key (Writes .text) (english.text message)
    (messages.text message)

theorem decode_partial (given : Partial members) (sound : membersSound members = true) :
    ∃ messages, Messages.decode (.object members true) = .ok messages ∧
      messages.Overridden members := by
  have each : ∀ message : Message, ∃ text,
      Overrides members message.key (Writes .text) message.english text ∧
        (withDefault message.key decodeText message.english).Takes members text := by
    intro message
    have known : message.key ∈ Message.all.map Message.key := List.mem_map_of_mem message.mem_all
    exact exists_overrides given.gives known
      (decodes_of_recovers recovers_text (given.texts message)) _
  choose texts overrides takes using each
  have all : (family Message.all (fun message =>
      withDefault message.key decodeText message.english) Message.english).Takes members texts :=
    takes_family (fun message _ => takes message) fun message other => absurd message.mem_all other
  exact ⟨⟨texts⟩, decodeRecord_of_takes given.gives sound (all.map Messages.mk), overrides⟩

/-- The messages of a tree: those of an object with some of them, or those that an array lists. -/
inductive Denoted : Tree → Messages → Prop where
  | object {inner : List (Option String × Tree)} {messages : Messages} : Partial inner →
      messages.Overridden inner → Denoted (.object inner true) messages
  | array {items : List Tree} {messages : Messages} :
      Messages.decode (.array items true) = .ok messages → Denoted (.array items true) messages

end Messages

/-! ### Settings -/

namespace Config

/-- Some settings, each of its type and at most once. The messages may be given in part as well. -/
structure Partial (members : List (Option String × Tree)) : Prop where
  gives : Gives ["time_format", "utc_offset_minutes", "lookback_days", "sensor_groups", "strings"]
    members
  clockStyle : HasType members "time_format" (Names ClockStyle.name)
  utcOffsetMinutes : HasType members "utc_offset_minutes" (Writes fun minutes : Int32 =>
    .int minutes.toInt)
  lookbackDays : HasType members "lookback_days" (Writes fun days : UInt32 => .int days.toNat)
  sensorGroups : HasType members "sensor_groups" (Writes fun groups : List String =>
    .list (groups.map .text))
  messages : ∀ tree, (some "strings", tree) ∈ members →
    (∃ inner, tree = .object inner true ∧ Messages.Partial inner) ∨
      ∃ items messages, tree = .array items true ∧ Messages.decode tree = .ok messages

/-- The settings to start from, but for those that are given. -/
structure Overridden (config : Config) (members : List (Option String × Tree)) : Prop where
  clockStyle : Overrides members "time_format" (Names ClockStyle.name)
    ({} : Config).clockStyle config.clockStyle
  utcOffsetMinutes : Overrides members "utc_offset_minutes" (Writes fun minutes : Int32 =>
    .int minutes.toInt) ({} : Config).utcOffsetMinutes config.utcOffsetMinutes
  lookbackDays : Overrides members "lookback_days" (Writes fun days : UInt32 =>
    .int days.toNat) ({} : Config).lookbackDays config.lookbackDays
  sensorGroups : Overrides members "sensor_groups" (Writes fun groups : List String =>
    .list (groups.map .text)) ({} : Config).sensorGroups config.sensorGroups
  messages : Overrides members "strings" Messages.Denoted ({} : Config).messages config.messages

theorem decode_partial (given : Partial members) (sound : membersSound members = true) :
    ∃ config, Config.decode (.object members true) = .ok config ∧ config.Overridden members := by
  have style : Decodes members "time_format" (Names ClockStyle.name) ClockStyle.decode :=
    decodes_of_names (by decide) ClockStyle.mem_all given.clockStyle
  have offset := decodes_of_recovers recovers_int32 given.utcOffsetMinutes
  have lookback := decodes_of_recovers recovers_uint32 given.lookbackDays
  have sensors := decodes_of_recovers (fun _ => .list fun name _ => recovers_text name)
    given.sensorGroups
  have strings : Decodes members "strings" Messages.Denoted Messages.decode := by
    intro tree mem
    rcases given.messages tree mem with ⟨inner, rfl, some⟩ | ⟨items, messages, rfl, decoded⟩
    · have objectSound := membersSound_iff.mp sound _ mem
      obtain ⟨messages, decoded, overridden⟩ :=
        Messages.decode_partial some ((Bool.and_eq_true _ _).mp objectSound).1
      exact ⟨messages, .object some overridden, decoded⟩
    · exact ⟨messages, .array decoded, decoded⟩
  obtain ⟨_, overridesStyle, takesStyle⟩ := exists_overrides given.gives (by decide) style .twelveHour
  obtain ⟨_, overridesOffset, takesOffset⟩ := exists_overrides given.gives (by decide) offset 0
  obtain ⟨_, overridesLookback, takesLookback⟩ := exists_overrides given.gives (by decide) lookback 1
  obtain ⟨_, overridesSensors, takesSensors⟩ :=
    exists_overrides given.gives (by decide) sensors PermissionScreen.sensorGroups
  obtain ⟨_, overridesStrings, takesStrings⟩ :=
    exists_overrides given.gives (by decide) strings Messages.english
  have takes := (((((takesStyle.map Config.mk).seq takesOffset).seq takesLookback).seq
    takesSensors).seq takesStrings)
  exact ⟨_, decodeRecord_of_takes given.gives sound takes, overridesStyle, overridesOffset,
    overridesLookback, overridesSensors, overridesStrings⟩

end Config

/-! ### Groups -/

namespace Descriptor

/-- A group, of which at least the name is given. -/
structure Partial (group : String) (members : List (Option String × Tree)) : Prop where
  gives : Gives ["group_name", "subtitle", "is_system"] members
  group_mem : (some "group_name", .text group) ∈ members
  subtitle : HasType members "subtitle" (Names Subtitle.name)
  isSystem : HasType members "is_system" (Writes .bool)

/-- The group of that name, but for what is given of it. -/
structure Overridden (descriptor : Descriptor) (group : String)
    (members : List (Option String × Tree)) : Prop where
  group_eq : descriptor.group = group
  subtitle : Overrides members "subtitle" (Names Subtitle.name)
    ({ group } : Descriptor).subtitle descriptor.subtitle
  isSystem : Overrides members "is_system" (Writes .bool)
    ({ group } : Descriptor).isSystem descriptor.isSystem

theorem decode_partial {group : String} (given : Partial group members)
    (sound : membersSound members = true) :
    ∃ descriptor, Descriptor.decode (.object members true) = .ok descriptor ∧
      descriptor.Overridden group members := by
  have line : Decodes members "subtitle" (Names Subtitle.name) Subtitle.decode :=
    decodes_of_names (by decide) Subtitle.mem_all given.subtitle
  have origin := decodes_of_recovers recovers_bool given.isSystem
  have takesGroup : (required "group_name" decodeText).Takes members group :=
    takes_of_mem given.gives (by decide) given.group_mem rfl
  obtain ⟨_, overridesLine, takesLine⟩ := exists_overrides given.gives (by decide) line .plain
  obtain ⟨_, overridesOrigin, takesOrigin⟩ := exists_overrides given.gives (by decide) origin true
  have takes := ((takesGroup.map Descriptor.mk).seq takesLine).seq takesOrigin
  exact ⟨_, decodeRecord_of_takes given.gives sound takes, rfl, overridesLine, overridesOrigin⟩

end Descriptor

/-- **Partial objects.** A text of an object that gives some of the fields, each at most once and of
its type, is read as the defaults with these fields in their place: as messages, as settings, and, if
it gives the name, as a group. -/
theorem partial_objects_override {text : String} {members : List (Option String × Tree)}
    (spelled : Spelled (.object members true) text) :
    (Messages.Partial members → ∃ messages,
      decodeDocument Messages.decode (Document.ofText text) = .ok messages ∧
        messages.Overridden members) ∧
    (Config.Partial members → ∃ config,
      decodeDocument Config.decode (Document.ofText text) = .ok config ∧
        config.Overridden members) ∧
    ∀ group, Descriptor.Partial group members → ∃ descriptor,
      decodeDocument Descriptor.decode (Document.ofText text) = .ok descriptor ∧
        descriptor.Overridden group members := by
  have sound := ((Bool.and_eq_true _ _).mp (isSound_of_spelled spelled)).1
  refine ⟨fun given => ?_, fun given => ?_, fun group given => ?_⟩
  · obtain ⟨messages, decodes, overridden⟩ := Messages.decode_partial given sound
    exact ⟨messages, decodeDocument_of_spelled spelled decodes, overridden⟩
  · obtain ⟨config, decodes, overridden⟩ := Config.decode_partial given sound
    exact ⟨config, decodeDocument_of_spelled spelled decodes, overridden⟩
  · obtain ⟨descriptor, decodes, overridden⟩ := Descriptor.decode_partial given sound
    exact ⟨descriptor, decodeDocument_of_spelled spelled decodes, overridden⟩

/-- Messages in part, with something else among them. -/
def someMessages : List (String × Tree) := [("help", .text "Hilfe"), ("note", .null)]

/-- An object that gives a part of messages, of settings and of a group, for each of them with other
fields among those that it knows. -/
def mixedMembers : List (String × Tree) := [
  ("all_permissions", .text "Alle"),
  ("strings", .record someMessages),
  ("extra", .list [.null, .record [("lookback_days", .bool false)]]),
  ("lookback_days", .int 7),
  ("extra", .text "again"),
  ("is_system", .bool false),
  ("group_name", .text "contacts")]

def mixedText : String := (Tree.record mixedMembers).write

theorem spelled_mixedText : Spelled (.object (named mixedMembers) true) mixedText := by
  have messages : (Tree.record someMessages).Written :=
    .record (by simpa [someMessages] using ⟨.text _, .null⟩)
  have inside : (Tree.record [("lookback_days", .bool false)]).Written :=
    .record (by simpa using .bool false)
  have extra : (Tree.list [.null, .record [("lookback_days", .bool false)]]).Written :=
    .list (by simpa using ⟨.null, inside⟩)
  have written : (Tree.record mixedMembers).Written := by
    refine .record ?_
    simp only [mixedMembers, List.forall_mem_cons]
    exact ⟨.text _, messages, extra, .int (by decide) (by decide), .text _, .bool _, .text _, nofun⟩
  exact written.spelled_write

theorem messages_partial_mixedMembers : Messages.Partial (named mixedMembers) :=
  .of_named ⟨by decide, by decide⟩ (by simp [mixedMembers, Message.all, Message.key])

theorem config_partial_mixedMembers : Config.Partial (named mixedMembers) where
  gives := ⟨by decide, by decide⟩
  clockStyle := by simp [HasType, mem_named_iff, mixedMembers]
  utcOffsetMinutes := by simp [HasType, mem_named_iff, mixedMembers]
  lookbackDays tree mem := by
    obtain rfl : tree = .int 7 := by simpa [mem_named_iff, mixedMembers] using mem
    exact ⟨7, rfl⟩
  sensorGroups := by simp [HasType, mem_named_iff, mixedMembers]
  messages tree mem := by
    obtain rfl : tree = .record someMessages := by simpa [mem_named_iff, mixedMembers] using mem
    refine .inl ⟨named someMessages, rfl, .of_named ⟨by decide, by decide⟩ ?_⟩
    simp [someMessages, Message.all, Message.key]

theorem descriptor_partial_mixedMembers :
    Descriptor.Partial "contacts" (named mixedMembers) where
  gives := ⟨by decide, by decide⟩
  group_mem := by simp [mem_named_iff, mixedMembers]
  subtitle := by simp [HasType, mem_named_iff, mixedMembers]
  isSystem tree mem := by
    obtain rfl : tree = .bool false := by simpa [mem_named_iff, mixedMembers] using mem
    exact ⟨false, rfl⟩

theorem partial_objects_override_mixedMembers :
    Spelled (.object (named mixedMembers) true) mixedText ∧
      Messages.Partial (named mixedMembers) ∧ Config.Partial (named mixedMembers) ∧
      Descriptor.Partial "contacts" (named mixedMembers) ∧
      (∃ messages, decodeDocument Messages.decode (Document.ofText mixedText) = .ok messages ∧
        messages.Overridden (named mixedMembers)) ∧
      (∃ config, decodeDocument Config.decode (Document.ofText mixedText) = .ok config ∧
        config.Overridden (named mixedMembers)) ∧
      ∃ descriptor, decodeDocument Descriptor.decode (Document.ofText mixedText) = .ok descriptor ∧
        descriptor.Overridden "contacts" (named mixedMembers) := by
  obtain ⟨messages, config, descriptor⟩ := partial_objects_override spelled_mixedText
  exact ⟨spelled_mixedText, messages_partial_mixedMembers, config_partial_mixedMembers,
    descriptor_partial_mixedMembers, messages messages_partial_mixedMembers,
    config config_partial_mixedMembers, descriptor "contacts" descriptor_partial_mixedMembers⟩

end PermissionScreen
