import PermissionScreen.Proofs.Screen.Calls

/-!
What a load of usages changes.

A screen that shows something makes its model anew when usages come in, by records that are new and a
clock that has gone on. All the same only the lines below the titles of groups can differ from what
was shown before; the switch for revoking is the same, and the host is not asked for anything. By one
clock it is only the lines of those groups that differ whose last access does
(`usage_load_changes_summaries`).
-/

namespace PermissionScreen

/-- Two entries that are the same but for the line below the title, and this differs at most for
some groups. -/
structure Entry.SameBut (changed : String → Prop) (entry other : Entry) : Prop where
  rest : other = { entry with summary := other.summary }
  summary : other.summary ≠ entry.summary → ∃ group, entry.group? = some group ∧ changed group

/-- Two sections with the same entries in the same order, but for the lines below the titles of some
groups. -/
structure Section.SameBut (changed : String → Prop) (shown other : Section) : Prop where
  category : other.category = shown.category
  entries : List.Forall₂ (Entry.SameBut changed) shown.entries other.entries

/-- Two models with the same sections in the same order and the same switch, but for the lines below
the titles of some groups. -/
structure Model.SameBut (changed : String → Prop) (model other : Model) : Prop where
  sections : List.Forall₂ (Section.SameBut changed) model.sections other.sections
  autoRevoke : other.autoRevoke = model.autoRevoke

/-! ### Lines that are told anew -/

section Retold

variable {scene other : Scene} {changed : String → Prop}

theorem Entry.sameBut_refl (changed : String → Prop) (entry : Entry) :
    Entry.SameBut changed entry entry :=
  ⟨rfl, fun ne => absurd rfl ne⟩

theorem Section.sameBut_refl (changed : String → Prop) (shown : Section) :
    Section.SameBut changed shown shown :=
  ⟨rfl, List.forall₂_same.mpr fun entry _ => entry.sameBut_refl changed⟩

theorem Model.sameBut_refl (changed : String → Prop) (model : Model) :
    Model.SameBut changed model model :=
  ⟨List.forall₂_same.mpr fun shown _ => shown.sameBut_refl changed, rfl⟩

/-- What two scenes tell of an entry differs at most in the line below its title. -/
theorem Entry.sameBut_retold
    (unchanged : ∀ group, ¬ changed group →
      ∀ subtitle, other.groupSummary group subtitle = scene.groupSummary group subtitle)
    (entry : Entry) : Entry.SameBut changed (entry.retold scene) (entry.retold other) where
  rest := by
    unfold retold
    split <;> rfl
  summary differs := by
    cases kind : entry.kind with
    | group name source subtitle =>
      refine ⟨name, by simp [group?, kind], ?_⟩
      by_contra same
      apply differs
      simp only [retold, kind]
      exact unchanged name same subtitle
    | _ =>
      have none : entry.group? = none := by simp [group?, kind]
      rw [retold_of_group?_eq_none other none, retold_of_group?_eq_none scene none] at differs
      exact absurd rfl differs

/-- Two scenes of one screen have the same sections, but for the lines below the titles of those
groups for which they have different lines. -/
theorem Scene.SameScreen.sections_sameBut (same : SameScreen scene other)
    (unchanged : ∀ group, ¬ changed group →
      ∀ subtitle, other.groupSummary group subtitle = scene.groupSummary group subtitle)
    (groups : Groups) :
    List.Forall₂ (Section.SameBut changed) (scene.sections groups) (other.sections groups) := by
  have own : SameScreen scene scene := ⟨rfl, rfl⟩
  -- Both are the same sections told anew, each by its own scene.
  have retold : List.Forall₂ (Section.SameBut changed)
      ((scene.sections groups).map (Section.retold scene))
      ((scene.sections groups).map (Section.retold other)) := by
    rw [List.forall₂_map_left_iff, List.forall₂_map_right_iff, List.forall₂_same]
    intro shown _
    refine ⟨rfl, ?_⟩
    rw [Section.retold, Section.retold, List.forall₂_map_left_iff, List.forall₂_map_right_iff,
      List.forall₂_same]
    intro entry _
    exact entry.sameBut_retold unchanged
  rwa [← own.sections_eq_retold, ← same.sections_eq_retold] at retold

/-- By one clock, the line below the title of a group is for its last access to say. -/
theorem Scene.groupSummary_congr {config : Config} {args : Args} {records records' : Records}
    {now : Int} {group : String} (same : records.lastAccess group = records'.lastAccess group)
    (subtitle : Subtitle) :
    (⟨config, args, records', now⟩ : Scene).groupSummary group subtitle =
      (⟨config, args, records, now⟩ : Scene).groupSummary group subtitle := by
  simp only [groupSummary, recency, accessTime, same]
  rfl

/-! ### The switch -/

theorem Section.find?_retold (scene : Scene) (shown : Section) (key : String) :
    (shown.retold scene).find? key = (shown.find? key).map (Entry.retold scene) := by
  rw [Section.find?, Section.retold, List.find?_map]
  simp only [Function.comp_def, Entry.key_retold]
  rfl

/-- The groups that would be revoked are named by their titles. -/
theorem Hibernation.autoRevoke?_retold (hibernation : Hibernation) (scene : Scene)
    (allowed : Option Section) (messages : Messages) :
    hibernation.autoRevoke? (allowed.map (Section.retold scene)) messages =
      hibernation.autoRevoke? allowed messages := by
  have titles : hibernation.revocableTitles (allowed.map (Section.retold scene)) =
      hibernation.revocableTitles allowed := by
    apply List.filterMap_congr
    intro group _
    cases allowed with
    | none => rfl
    | some shown =>
      simp only [Option.map_some, Option.bind_some, Section.find?_retold, Option.map_map]
      exact congrArg (fun title => (shown.find? group).map title)
        (funext fun entry => entry.title_retold scene)
  rw [autoRevoke?, autoRevoke?, titles]

end Retold

namespace Screen

variable {screen : Screen} {model : Model}

/-- Screens that keep the same groups and the same settings of revoking make models that are the
same but for the lines below the titles of groups, whatever their records and the time. -/
theorem render_sameBut (screen other : Screen) (config : other.config = screen.config)
    (args : other.args = screen.args) (groups : other.groups = screen.groups)
    (hibernation : other.hibernation = screen.hibernation) (time now : Int) :
    Model.SameBut (fun _ => True) (screen.render time) (other.render now) := by
  let before : Scene := ⟨screen.config, screen.args, screen.records, time⟩
  let after : Scene := ⟨other.config, other.args, other.records, now⟩
  have same : Scene.SameScreen before after := ⟨config.symm, args.symm⟩
  have sections : (other.render now).sections =
      after.sections (screen.groups.getD Groups.empty) := by rw [← groups]; rfl
  constructor
  · rw [sections]
    exact same.sections_sameBut (fun _ untrue => absurd trivial untrue) _
  · have allowed : (⟨(other.render now).sections, none⟩ : Model).section? .allowed =
        ((⟨(screen.render time).sections, none⟩ : Model).section? .allowed).map
          (Section.retold after) := by
      rw [sections, same.sections_eq_retold, Model.section?, List.find?_map]
      rfl
    show other.hibernation.bind (fun settings => settings.autoRevoke?
        ((⟨(other.render now).sections, none⟩ : Model).section? .allowed) other.config.messages) =
      screen.hibernation.bind (fun settings => settings.autoRevoke?
        ((⟨(screen.render time).sections, none⟩ : Model).section? .allowed) screen.config.messages)
    simp only [allowed, Hibernation.autoRevoke?_retold, hibernation, config]

/-- A screen shows a model that it has made, at some time, of what it keeps. -/
structure Shows (screen : Screen) (model : Model) : Prop where
  shown : screen.model = some model
  known : screen.groups.isSome
  seen : screen.firstLoad = false
  made : ∃ time, model = screen.render time

/-- So does every screen with a model, after any past. -/
theorem shows_after {args : Args} {config : Config} {past : History}
    (shown : (after args config past).model = some model) :
    (after args config past).Shows model := by
  have isSome := past.renderTime?_isSome
  have rendered := shown
  rw [model_after] at rendered
  obtain ⟨time, rendered, made⟩ := Option.map_eq_some_iff.mp rendered
  rw [rendered] at isSome
  have known : (keeping args config past).groups.isSome := isSome.symm
  have seen : (keeping args config past).firstLoad = false := by
    rw [show (keeping args config past).firstLoad = (past.latest? Event.newGroups?).isNone from rfl,
      ← Option.not_isSome, ← isSome]
    rfl
  have state : after args config past =
      { (keeping args config past).recount time with model := some model } := by
    simp only [after, rendered, made]
  rw [state]
  exact ⟨rfl, known, seen, time, made.symm⟩

/-- Usages that come in change the lines below the titles of groups, and nothing else that is
shown. -/
theorem Shows.onUsages (shows : screen.Shows model) (moment : Moment) (usages : List AppUsage) :
    (screen.onUsages moment usages).calls = [] ∧
      ∃ model', (screen.onUsages moment usages).screen.model = some model' ∧
        (screen.onUsages moment usages).result = some model' ∧
          Model.SameBut (fun _ => True) model model' := by
  rcases screen.onUsages_cases moment usages with eq | ⟨unknown, eq⟩ | ⟨groups, known, eq⟩
  · rw [eq]
    exact ⟨rfl, model, shows.shown, shows.shown, model.sameBut_refl _⟩
  · have known := shows.known
    rw [unknown] at known
    cases known
  · obtain ⟨time, rfl⟩ := shows.made
    let counted := { screen with usages }.recount moment.now
    have sameBut : Model.SameBut (fun _ => True) (screen.render time)
        (counted.render moment.now) :=
      screen.render_sameBut counted rfl rfl rfl rfl time moment.now
    rw [eq]
    refine ⟨?_, counted.render moment.now, rfl, rfl, sameBut⟩
    exact if_neg (by simp [shows.seen])

/-- **A load of usages.** After any past, a screen that shows something shows the same when usages
have come in, but for the lines below the titles of groups, and asks its host for nothing. By one
clock these lines differ at most for the groups whose last access does. -/
theorem usage_load_changes_summaries :
    (∀ (args : Args) (config : Config) (past : History) (model : Model),
      let screen := (({ args, config } : Screen).handleAll past).1
      screen.model = some model → ∀ (moment : Moment) (usages : List AppUsage),
        let step := screen.onUsages moment usages
        step.calls = [] ∧ ∃ model', step.screen.model = some model' ∧
          step.result = some model' ∧ Model.SameBut (fun _ => True) model model') ∧
    ∀ (config : Config) (args : Args) (now : Int) (groups : Groups) (records records' : Records),
      List.Forall₂
        (Section.SameBut fun group => records.lastAccess group ≠ records'.lastAccess group)
        (Scene.sections ⟨config, args, records, now⟩ groups)
        (Scene.sections ⟨config, args, records', now⟩ groups) := by
  constructor
  · intro args config past model screen shown moment usages
    have state : screen = after args config past := handleAll_eq_after args config past
    rw [state] at shown ⊢
    exact (shows_after shown).onUsages moment usages
  · intro config args now groups records records'
    have same : Scene.SameScreen ⟨config, args, records, now⟩ ⟨config, args, records', now⟩ :=
      ⟨rfl, rfl⟩
    apply same.sections_sameBut
    intro group unchanged subtitle
    exact Scene.groupSummary_congr (not_not.mp unchanged) subtitle

/-- A past in which the groups of an app have come in before its settings of revoking. -/
def shownPast : History :=
  [(⟨0, 1⟩, .groups (some (Groups.empty.set .allowed [⟨"camera", .plain, true⟩]))),
    (⟨5, 2⟩, .hibernation (some ⟨true, true, true, ["camera"]⟩))]

/-- The group that it shows and would have revoked has been used since. -/
theorem usage_load_changes_summaries_shownPast :
    let screen := (({ args := Args.ofPackage "app" 0 1, config := {} } : Screen).handleAll
      shownPast).1
    let step := screen.onUsages ⟨90000, 3⟩ [⟨"app", [⟨"camera", 60000⟩]⟩]
    ∃ model, screen.model = some model ∧ step.calls = [] ∧
      ∃ model', step.screen.model = some model' ∧ step.result = some model' ∧
        Model.SameBut (fun _ => True) model model' :=
  ⟨_, rfl, usage_load_changes_summaries.1 _ _ shownPast _ rfl _ _⟩

end Screen
end PermissionScreen
