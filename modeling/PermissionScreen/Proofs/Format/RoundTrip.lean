import PermissionScreen.Format.Model
import PermissionScreen.Format.Screen
import PermissionScreen.Format.Usage
import PermissionScreen.Proofs.Format.Overrides
import PermissionScreen.Proofs.Json.Yields

/-!
Everything that is written in JSON is read again as it was.

Each kind of value is recovered from what is written for it. Counts are the only values that could be
too large for that, and no count that is read is too large (`Kind.yields_countFits`). So what is
written for a value that has been read is written again as it is.
-/

namespace PermissionScreen

open Json Json.Fields

/-! ### Names -/

theorem Category.recovers (category : Category) :
    Recovers Category.decode category.encode category :=
  recovers_name (by decide) category.mem_all

theorem Subtitle.recovers (subtitle : Subtitle) :
    Recovers Subtitle.decode subtitle.encode subtitle :=
  recovers_name (by decide) subtitle.mem_all

theorem ClockStyle.recovers (style : ClockStyle) : Recovers ClockStyle.decode style.encode style :=
  recovers_name (by decide) style.mem_all

theorem ViewCategory.recovers (category : ViewCategory) :
    Recovers ViewCategory.decode category.encode category :=
  recovers_name (by decide) (by cases category <;> decide)

/-! ### Groups -/

theorem Descriptor.recovers (descriptor : Descriptor) :
    Recovers Descriptor.decode descriptor.encode descriptor :=
  mirrors_first Descriptor.mk (recovers_text descriptor.group)
    |>.next descriptor.subtitle.recovers
    |>.next (recovers_bool descriptor.isSystem)
    |>.recovers (by decide)

namespace Groups

/-- Listing groups again, some of them as they are listed and the others as before. -/
theorem listed_foldl_set (groups start : Groups) (categories : List Category) (category : Category) :
    ((categories.filterMap fun category => (groups.listed category).map (category, ·)).foldl
      (fun groups entry => groups.set entry.1 entry.2) start).listed category =
        if category ∈ categories then (groups.listed category).or (start.listed category)
        else start.listed category := by
  induction categories generalizing start with
  | nil => rfl
  | cons first rest ih =>
    cases own : groups.listed first with
    | none =>
      rw [List.filterMap_cons_none (by rw [own]; rfl), ih]
      by_cases same : category = first
      · simp [same, own]
      · simp [same]
    | some descriptors =>
      rw [List.filterMap_cons_some (by rw [own]; rfl), List.foldl_cons, ih]
      by_cases same : category = first
      · simp [same, own, set]
      · simp [same, set]

/-- Groups are what their entries list. -/
theorem ofEntries_entries (groups : Groups) : ofEntries groups.entries = groups := by
  refine ext_listed fun category => ?_
  rw [ofEntries, entries, listed_foldl_set, if_pos category.mem_all]
  exact Option.or_none

theorem recovers (groups : Groups) : Recovers Groups.decode groups.encode groups := by
  have entries : Recovers (decodeMap (decodeName Category.variants) (decodeList Descriptor.decode))
      groups.encode groups.entries :=
    recovers_map Category.name (fun listed : List Descriptor => .list (listed.map Descriptor.encode))
      (fun entry _ => entry.1.recovers.decodes)
      (fun entry _ => .list fun descriptor _ => descriptor.recovers)
  have made := entries.map ofEntries
  rwa [ofEntries_entries] at made

end Groups

/-! ### What the screen shows -/

theorem Args.recovers (args : Args) : Recovers Args.decode args.encode args :=
  mirrors_first Args.mk (recovers_text args.package)
    |>.next (recovers_uint32 args.user)
    |>.next (recovers_int64 args.session)
    |>.next (recovers_bool args.isSystem)
    |>.next (recovers_bool args.showsUsage)
    |>.recovers (by decide)

theorem Icon.recovers (icon : Icon) : Recovers Icon.decode icon.encode icon := by
  have distinct : (Icon.variants.map Variant.name).Nodup := by decide
  cases icon with
  | group name => exact .carrying distinct List.mem_cons_self ((recovers_text name).map Icon.group)
  | additional => exact .unit distinct (by simp [variants])
  | info => exact .unit distinct (by simp [variants])

theorem Icon.encode_ne_null (icon : Icon) : icon.encode ≠ .null := by
  cases icon <;> exact nofun

namespace Action

theorem recovers (action : Action) : Recovers Action.decode action.encode action := by
  have distinct : (Action.variants.map Variant.name).Nodup := by decide
  cases action with
  | none => exact .unit distinct List.mem_cons_self
  | openGroup group category =>
    refine .carrying distinct (List.mem_of_getElem? (i := 1) rfl) ?_
    exact mirrors_first Action.openGroup (recovers_text group)
      |>.next category.recovers
      |>.recovers (by decide)
  | showAdditional args =>
    refine .carrying distinct (List.mem_of_getElem? (i := 2) rfl) ?_
    exact args.recovers.map Action.showAdditional
  | viewUsage group =>
    refine .carrying distinct (List.mem_of_getElem? (i := 3) rfl) ?_
    exact mirrors_first Action.viewUsage (recovers_text group) |>.recovers (by decide)

theorem encode_ne_null (action : Action) : action.encode ≠ .null := by
  cases action <;> exact nofun

end Action

/-- A count has at most 64 bits. -/
def Kind.CountFits : Kind → Prop
  | .additional count => count < UInt64.size
  | _ => True

theorem Kind.recovers {kind : Kind} (fits : kind.CountFits) :
    Recovers Kind.decode kind.encode kind := by
  have distinct : (Kind.variants.map Variant.name).Nodup := by decide
  cases kind with
  | group name source subtitle =>
    refine .carrying distinct (List.mem_of_getElem? (i := 0) rfl) ?_
    exact mirrors_first Kind.group (recovers_text name)
      |>.next source.recovers
      |>.next subtitle.recovers
      |>.recovers (by decide)
  | additional count =>
    refine .carrying distinct (List.mem_of_getElem? (i := 1) rfl) ?_
    exact mirrors_first Kind.additional (recovers_count fits) |>.recovers (by decide)
  | placeholder => exact .unit distinct (by simp [variants])

/-- A field for which nothing is written if it has no value. -/
theorem mirrors_optional {α : Type} {name : String} {decode : Decoder α} {encode : α → Tree}
    (recovers : ∀ value, Recovers decode (encode value) value)
    (present : ∀ value, encode value ≠ .null) (value : Option α) :
    (optional name decode).Mirrors (optionalMember name encode value) value := by
  cases value with
  | some value => exact mirrors_single ((recovers value).some (present value))
  | none => exact mirrors_nothing

def Entry.CountFits (entry : Entry) : Prop := entry.kind.CountFits

theorem Entry.recovers {entry : Entry} (fits : entry.CountFits) :
    Recovers Entry.decode entry.encode entry :=
  mirrors_first Entry.mk (recovers_text entry.key)
    |>.next (recovers_text entry.title)
    |>.seq (mirrors_optional recovers_text (fun _ => nofun) entry.summary)
    |>.seq (mirrors_optional Icon.recovers Icon.encode_ne_null entry.icon)
    |>.next entry.action.recovers
    |>.seq (mirrors_optional Icon.recovers Icon.encode_ne_null entry.secondaryIcon)
    |>.seq (mirrors_optional Action.recovers Action.encode_ne_null entry.secondaryAction)
    |>.next (Kind.recovers fits)
    |>.recovers (by decide)

def Section.CountsFit (shown : Section) : Prop := ∀ entry ∈ shown.entries, entry.CountFits

theorem Section.recovers {shown : Section} (fits : shown.CountsFit) :
    Recovers Section.decode shown.encode shown :=
  mirrors_first Section.mk shown.category.recovers
    |>.next (.list fun entry mem => Entry.recovers (fits entry mem))
    |>.recovers (by decide)

theorem AutoRevoke.recovers (autoRevoke : AutoRevoke) :
    Recovers AutoRevoke.decode autoRevoke.encode autoRevoke :=
  mirrors_first AutoRevoke.mk (recovers_text autoRevoke.label)
    |>.next (recovers_bool autoRevoke.checked)
    |>.next (recovers_bool autoRevoke.enabled)
    |>.next (recovers_text autoRevoke.summary)
    |>.recovers (by decide)

theorem recovers_option {α : Type} {decode : Decoder α} {encode : α → Tree}
    (recovers : ∀ value, Recovers decode (encode value) value)
    (present : ∀ value, encode value ≠ .null) (value : Option α) :
    Recovers (decodeOption decode) (encodeOption encode value) value := by
  cases value with
  | some value => exact (recovers value).some (present value)
  | none => exact recovers_none decode

def Model.CountsFit (model : Model) : Prop := ∀ shown ∈ model.sections, shown.CountsFit

theorem Model.recovers {model : Model} (fits : model.CountsFit) :
    Recovers Model.decode model.encode model :=
  mirrors_first Model.mk (.list fun shown mem => Section.recovers (fits shown mem))
    |>.next (recovers_option AutoRevoke.recovers (fun _ => nofun) model.autoRevoke)
    |>.recovers (by decide)

/-! ### What the screen is told -/

theorem Hibernation.recovers (hibernation : Hibernation) :
    Recovers Hibernation.decode hibernation.encode hibernation :=
  mirrors_first Hibernation.mk (recovers_bool hibernation.enabledGlobal)
    |>.next (recovers_bool hibernation.enabledForApp)
    |>.next (recovers_bool hibernation.allowUserToggle)
    |>.next (.list fun name _ => recovers_text name)
    |>.recovers (by decide)

theorem ViewRecord.recovers (record : ViewRecord) :
    Recovers ViewRecord.decode record.encode record :=
  mirrors_first ViewRecord.mk (recovers_int64 record.session)
    |>.next (recovers_int64 record.view)
    |>.next (recovers_text record.package)
    |>.next (recovers_text record.group)
    |>.next record.category.recovers
    |>.recovers (by decide)

theorem GroupUsage.recovers (usage : GroupUsage) :
    Recovers GroupUsage.decode usage.encode usage :=
  mirrors_first GroupUsage.mk (recovers_text usage.group)
    |>.next (recovers_int64 usage.lastAccess)
    |>.recovers (by decide)

theorem AppUsage.recovers (usage : AppUsage) : Recovers AppUsage.decode usage.encode usage :=
  mirrors_first AppUsage.mk (recovers_text usage.package)
    |>.next (.list fun (group : GroupUsage) _ => group.recovers)
    |>.recovers (by decide)

/-- Every message is given in what is written. -/
theorem Messages.recovers (messages : Messages) :
    Recovers Messages.decode messages.encode messages := by
  let members := Message.all.map fun message => (message.key, Tree.text (messages.text message))
  have distinct : (members.map Prod.fst).Nodup := by
    rw [List.map_map]
    exact Message.nodup_keys
  have texts : ∀ member ∈ members, ∃ text, member.2 = .text text := by
    intro member mem
    obtain ⟨message, _, rfl⟩ := List.mem_map.mp mem
    exact ⟨_, rfl⟩
  have written : ∀ member ∈ members, member.2.Written := by
    intro member mem
    obtain ⟨text, eq⟩ := texts member mem
    rw [eq]
    exact .text text
  have given : Messages.Partial (named members) :=
    .of_named (gives_named distinct) fun member mem _ => texts member mem
  obtain ⟨found, decodes, overridden⟩ := decode_partial given (membersSound_named written)
  have same : found = messages := by
    refine ext_text fun message => ?_
    have mem : (some message.key, Tree.text (messages.text message)) ∈ named members :=
      mem_named_iff.mpr (List.mem_map_of_mem message.mem_all)
    exact (Tree.text.inj ((overridden message).given _ mem)).symm
  rw [same] at decodes
  exact ⟨.record written, decodes⟩

theorem Config.recovers (config : Config) : Recovers Config.decode config.encode config :=
  mirrors_first Config.mk config.clockStyle.recovers
    |>.next (recovers_int32 config.utcOffsetMinutes)
    |>.next (recovers_uint32 config.lookbackDays)
    |>.next (.list fun name _ => recovers_text name)
    |>.next config.messages.recovers
    |>.recovers (by decide)

/-! ### What is read -/

theorem Kind.yields_countFits : Yields Kind.decode CountFits := by
  refine .choice fun variant mem => ?_
  simp only [variants, List.mem_cons, List.not_mem_nil, or_false] at mem
  rcases mem with rfl | rfl | rfl
  · exact .record (.seq_any (.seq_any (.map (yields_true _) fun _ _ _ _ => trivial)))
  · exact .record (.map (yields_required yields_count) fun _ fits => fits)
  · intro tree kind decoded
    obtain ⟨_, _, rfl⟩ := map_eq_ok_iff.mp decoded
    trivial

theorem Entry.yields_countFits : Yields Entry.decode CountFits := by
  -- Only the last field counts anything.
  refine .record (.seq (P := Kind.CountFits) ?_ (yields_required Kind.yields_countFits))
  refine .seq_any (.seq_any (.seq_any (.seq_any (.seq_any (.seq_any ?_)))))
  refine .map (yields_true _) ?_
  intro key _ title summary icon action secondaryIcon secondaryAction kind fits
  exact fits

theorem Section.yields_countsFit : Yields Section.decode CountsFit := by
  refine .record (.seq (P := fun entries => ∀ entry ∈ entries, entry.CountFits) ?_ ?_)
  · exact .map (yields_true _) fun _ _ _ fits => fits
  · exact yields_required (.list Entry.yields_countFits)

theorem Model.yields_countsFit : Yields Model.decode CountsFit := by
  refine .record (.seq_any (.map (P := fun sections => ∀ shown ∈ sections, shown.CountsFit) ?_ ?_))
  · exact yields_required (.list Section.yields_countsFit)
  · exact fun _ fits _ => fits

/-! ### There and back -/

/-- What is written for the value of a text, if the text has one. -/
def respell {α : Type} (decode : Decoder α) (encode : α → Tree) (text : String) :
    Except Fault String :=
  (decodeDocument decode (Document.ofText text)).map fun value => (encode value).write

/-- What is written for a value that fits is read as that value, and reading and writing a second
time changes nothing. -/
structure RoundTrips {α : Type} (decode : Decoder α) (encode : α → Tree) (fits : α → Prop) :
    Prop where
  read_written : ∀ value, fits value →
    decodeDocument decode (Document.ofText (encode value).write) = .ok value
  respell_respelled : ∀ text written, respell decode encode text = .ok written →
    respell decode encode written = .ok written

theorem roundTrips_of_recovers {α : Type} {decode : Decoder α} {encode : α → Tree} {fits : α → Prop}
    (recovers : ∀ value, fits value → Recovers decode (encode value) value)
    (yields : Yields decode fits) : RoundTrips decode encode fits := by
  have read : ∀ value, fits value →
      decodeDocument decode (Document.ofText (encode value).write) = .ok value := by
    intro value valueFits
    obtain ⟨written, decodes⟩ := recovers value valueFits
    exact decodeDocument_of_spelled written.spelled_write decodes
  refine ⟨read, fun text written respelled => ?_⟩
  obtain ⟨value, ofText, rfl⟩ := map_eq_ok_iff.mp respelled
  obtain ⟨found, decodes, atEnd⟩ := bind_eq_ok_iff.mp ofText
  split at atEnd
  · exact absurd atEnd nofun
  · obtain rfl := Except.ok.inj atEnd
    rw [respell, read found (yields _ found decodes)]
    rfl

/-- **There and back.** Whatever is written in JSON is read as it was, and written again as it is; a
count has to have at most 64 bits. -/
theorem round_trips_json :
    RoundTrips Model.decode Model.encode Model.CountsFit ∧
      RoundTrips Section.decode Section.encode Section.CountsFit ∧
      RoundTrips Entry.decode Entry.encode Entry.CountFits ∧
      RoundTrips Action.decode Action.encode (fun _ => True) ∧
      RoundTrips Kind.decode Kind.encode Kind.CountFits ∧
      RoundTrips Icon.decode Icon.encode (fun _ => True) ∧
      RoundTrips AutoRevoke.decode AutoRevoke.encode (fun _ => True) ∧
      RoundTrips ViewRecord.decode ViewRecord.encode (fun _ => True) ∧
      RoundTrips Args.decode Args.encode (fun _ => True) ∧
      RoundTrips Hibernation.decode Hibernation.encode (fun _ => True) ∧
      RoundTrips AppUsage.decode AppUsage.encode (fun _ => True) ∧
      RoundTrips GroupUsage.decode GroupUsage.encode (fun _ => True) ∧
      RoundTrips Descriptor.decode Descriptor.encode (fun _ => True) ∧
      RoundTrips Groups.decode Groups.encode (fun _ => True) ∧
      RoundTrips Config.decode Config.encode (fun _ => True) ∧
      RoundTrips Messages.decode Messages.encode (fun _ => True) := by
  have always : ∀ {α : Type} {decode : Decoder α} {encode : α → Tree},
      (∀ value, Recovers decode (encode value) value) →
        RoundTrips decode encode fun _ => True := by
    intro α decode encode recovers
    exact roundTrips_of_recovers (fun value _ => recovers value) fun _ _ _ => trivial
  exact ⟨roundTrips_of_recovers (fun _ => Model.recovers) Model.yields_countsFit,
    roundTrips_of_recovers (fun _ => Section.recovers) Section.yields_countsFit,
    roundTrips_of_recovers (fun _ => Entry.recovers) Entry.yields_countFits,
    always Action.recovers,
    roundTrips_of_recovers (fun _ => Kind.recovers) Kind.yields_countFits,
    always Icon.recovers, always AutoRevoke.recovers, always ViewRecord.recovers,
    always Args.recovers, always Hibernation.recovers, always AppUsage.recovers,
    always GroupUsage.recovers, always Descriptor.recovers, always Groups.recovers,
    always Config.recovers, always Messages.recovers⟩

/-- A model with the greatest count, characters that are escaped, an action that is there and does
nothing, and no switch. -/
def crowdedModel : Model where
  sections := [⟨.allowed, [
    { key := "a \"b\"\\\n", title := "\x01é😀", summary := some "", icon := some (.group "/"),
      action := .showAdditional ⟨"app", 4294967295, -9223372036854775808, false, true⟩,
      secondaryIcon := some .info, secondaryAction := some .none,
      kind := .additional 18446744073709551615 },
    { key := "", title := "", action := .openGroup "null" .allowedForeground,
      kind := .group "null" .ask .allFiles }]⟩]
  autoRevoke := none

theorem round_trips_json_crowdedModel : crowdedModel.CountsFit ∧
    decodeDocument Model.decode (Document.ofText crowdedModel.encode.write) = .ok crowdedModel := by
  have fits : crowdedModel.CountsFit := by
    simp [Model.CountsFit, Section.CountsFit, Entry.CountFits, Kind.CountFits, crowdedModel]
  exact ⟨fits, round_trips_json.1.read_written crowdedModel fits⟩

end PermissionScreen
