import Mathlib.Data.Multiset.Bind
import PermissionScreen.Proofs.Screen.Lookup
import PermissionScreen.Proofs.Text.Filling
import PermissionScreen.Proofs.Text.Phrase
import PermissionScreen.Screen.Hibernation

/-!
What the switch for revoking says below its label.

The switch takes the names of the groups that would be revoked in turn, looks each of them up in the
section of the allowed groups and lists the titles that it finds, sorted. As only a title is equal to
itself, a collection of titles has one sorted list, and there is one thing to be said of it
(`saysRevoked_iff`). So neither the order of the names nor that of the entries matters
(`switch_order_irrelevant`).

Which titles are found is another matter. Every group on display is listed, but as often as it is
named, and a name that is no group's can be the key of the entry that counts groups or says that
there are none. `namesRevocable_allowed` says what is listed and exactly when it is the title of each
group on display that is named, once; `placeholder_named` that it need not be.
-/

namespace PermissionScreen

open scoped List

/-! ### Collections of titles -/

namespace Alphabet

variable (alphabet : Alphabet)

/-- A title does not come after another one. -/
def AtMost (left right : String) : Prop := (alphabet.compare left right).isLE

instance : Std.Antisymm alphabet.AtMost where
  antisymm _ _ first second :=
    Std.LawfulEqCmp.eq_of_compare (Std.OrientedCmp.isLE_antisymm first second)

/-- Titles that are sorted are the one sorted list of their collection. -/
theorem eq_sort_iff {sorted titles : List String} :
    sorted = alphabet.sort titles ↔
      (sorted : Multiset String) = titles ∧ sorted.Pairwise alphabet.AtMost := by
  have ordered : (alphabet.sort titles).Pairwise alphabet.AtMost :=
    (stablySorts_mergeSort alphabet.compare titles).ordered
  constructor
  · rintro rfl
    exact ⟨Multiset.coe_eq_coe.mpr (alphabet.sort_perm titles), ordered⟩
  · rintro ⟨same, pairwise⟩
    have perm := (Multiset.coe_eq_coe.mp same).trans (alphabet.sort_perm titles).symm
    exact perm.eq_of_pairwise (fun _ _ _ _ => Std.Antisymm.antisymm _ _) pairwise ordered

theorem isEmpty_sort_iff {titles : List String} :
    (alphabet.sort titles).isEmpty = true ↔ (titles : Multiset String) = 0 := by
  rw [(alphabet.sort_perm titles).isEmpty_eq, List.isEmpty_iff, Multiset.coe_eq_zero]

end Alphabet

/-- What is said below the label of the switch if a collection of titles is to be listed. -/
structure Messages.SaysRevoked (messages : Messages) (titles : Multiset String) (summary : String) :
    Prop where
  /-- An empty collection has a message of its own. -/
  empty : titles = 0 → summary = messages.text .autoRevokeSummary
  /-- Otherwise the titles, sorted, are a phrase, which is put into every slot for it. -/
  listed : titles ≠ 0 → ∃ (sorted : List String) (phrase : String),
    (sorted : Multiset String) = titles ∧ sorted.Pairwise Alphabet.unicode.AtMost ∧
      Text.Separators.Phrase ⟨messages.text .listPairSeparator, messages.text .listSeparator,
        messages.text .listFinalSeparator⟩ sorted phrase ∧
      Text.ReplacesAll (Text.slot "permissions").toList phrase.toList
        (messages.text .autoRevokeSummaryWithPermissions).toList summary.toList

namespace Hibernation

/-- The switch says what is to be said of the titles that are found, as a collection. -/
theorem saysRevoked_iff {messages : Messages} {titles : List String} {text : String} :
    messages.SaysRevoked titles text ↔
      summary messages (Alphabet.unicode.sort titles) = text := by
  have plain : '\x7b' ∉ "permissions".toList := by decide
  rw [summary]
  by_cases none : (titles : Multiset String) = 0
  · rw [if_pos ((Alphabet.isEmpty_sort_iff _).mpr none)]
    constructor
    · intro tells
      exact (tells.empty none).symm
    · rintro rfl
      exact ⟨fun _ => rfl, fun some => absurd none some⟩
  · rw [if_neg (mt (Alphabet.isEmpty_sort_iff _).mp none), Text.fill_eq_iff plain]
    constructor
    · intro tells
      obtain ⟨sorted, phrase, same, ordered, names, fills⟩ := tells.listed none
      rw [← Alphabet.unicode.eq_sort_iff.mpr ⟨same, ordered⟩]
      rwa [← Text.Separators.phrase_iff.mp names] at fills
    · intro fills
      have sorts := Alphabet.unicode.eq_sort_iff.mp (Eq.refl (Alphabet.unicode.sort titles))
      refine ⟨fun zero => absurd zero none, fun _ => ⟨_, _, sorts.1, sorts.2, ?_, fills⟩⟩
      exact Text.Separators.phrase_iff.mpr rfl

/-- The switch says it of the titles that are found. -/
theorem saysRevoked_of_autoRevoke? {hibernation : Hibernation} {allowed : Option Section}
    {messages : Messages} {switch : AutoRevoke}
    (shown : hibernation.autoRevoke? allowed messages = some switch) :
    messages.SaysRevoked (hibernation.revocableTitles allowed) switch.summary := by
  obtain ⟨_, isSwitch⟩ := Option.ite_none_right_eq_some.mp shown
  obtain rfl := Option.some.inj isSwitch
  exact saysRevoked_iff.mpr rfl

end Hibernation

/-! ### The order of names and entries -/

/-- The titles of the entries that have one of some names as their key, for each of the names. -/
def matchedTitles (names : Multiset String) (entries : Multiset Entry) : Multiset String :=
  names.bind fun name => (entries.filter (·.key = name)).map (·.title)

/-- The titles that are found are those of the entries that match. -/
theorem coe_revocableTitles (hibernation : Hibernation) {shown : Section}
    (distinct : (shown.entries.map (·.key)).Nodup) :
    (hibernation.revocableTitles (some shown) : Multiset String) =
      matchedTitles hibernation.revocableGroups shown.entries := by
  rw [Hibernation.revocableTitles, matchedTitles, List.filterMap_eq_flatMap_toList,
    ← Multiset.coe_bind]
  refine congrArg _ (funext fun name => ?_)
  rw [Multiset.filter_coe, Multiset.map_coe, filter_key_eq_toList_find? distinct]
  simp [Section.find?, Option.toList_map]

/-- **The order of names and entries.** The switch is the same if the names of the groups to be
revoked or the entries of the section, of different keys, are put in another order. It is there if
revoking is turned on, and says that the titles of the entries that match are revoked. -/
theorem switch_order_irrelevant {hibernation other : Hibernation} {left right : Section}
    (settings : other = { hibernation with revocableGroups := other.revocableGroups })
    (names : hibernation.revocableGroups ~ other.revocableGroups)
    (entries : left.entries ~ right.entries) (distinct : (left.entries.map (·.key)).Nodup)
    (messages : Messages) :
    hibernation.autoRevoke? (some left) messages = other.autoRevoke? (some right) messages ∧
      ((hibernation.autoRevoke? (some left) messages).isSome ↔ hibernation.enabledGlobal) ∧
      ∀ switch ∈ hibernation.autoRevoke? (some left) messages,
        messages.SaysRevoked (matchedTitles hibernation.revocableGroups left.entries)
          switch.summary := by
  have distinct' : (right.entries.map (·.key)).Nodup := (entries.map _).nodup_iff.mp distinct
  have titles : (hibernation.revocableTitles (some left) : Multiset String) =
      other.revocableTitles (some right) := by
    rw [coe_revocableTitles hibernation distinct, coe_revocableTitles other distinct',
      Multiset.coe_eq_coe.mpr names, Multiset.coe_eq_coe.mpr entries]
  -- Of one collection there is one thing to be said.
  have summary : Hibernation.summary messages
        (Alphabet.unicode.sort (hibernation.revocableTitles (some left))) =
      Hibernation.summary messages (Alphabet.unicode.sort (other.revocableTitles (some right))) := by
    rw [← Hibernation.saysRevoked_iff, titles, Hibernation.saysRevoked_iff]
  refine ⟨?_, ?_, ?_⟩
  · rw [Hibernation.autoRevoke?, Hibernation.autoRevoke?, summary, settings]
  · rw [Hibernation.autoRevoke?, Option.isSome_ite]
  · intro switch shown
    rw [← coe_revocableTitles hibernation distinct]
    exact Hibernation.saysRevoked_of_autoRevoke? shown

/-- Settings under which the groups of some names are revoked. -/
def revoking (names : List String) : Hibernation := ⟨true, true, true, names⟩

theorem switch_order_irrelevant_swapped :
    let camera := bareScene.groupEntry .allowed ⟨"camera", .plain, true⟩
    let phone := bareScene.groupEntry .ask ⟨"phone", .plain, true⟩
    let names := ["phone", "store", "camera", "camera"]
    let others := ["camera", "phone", "camera", "store"]
    revoking others = { revoking names with revocableGroups := (revoking others).revocableGroups } ∧
      (revoking names).revocableGroups ~ (revoking others).revocableGroups ∧
      (Section.mk .allowed [camera, phone]).entries ~ (Section.mk .allowed [phone, camera]).entries ∧
      ((Section.mk .allowed [camera, phone]).entries.map (·.key)).Nodup ∧
      (revoking names).autoRevoke? (some ⟨.allowed, [camera, phone]⟩) .english =
        (revoking others).autoRevoke? (some ⟨.allowed, [phone, camera]⟩) .english ∧
      (((revoking names).autoRevoke? (some ⟨.allowed, [camera, phone]⟩) .english).isSome ↔
        (revoking names).enabledGlobal) ∧
      ∀ switch ∈ (revoking names).autoRevoke? (some ⟨.allowed, [camera, phone]⟩) .english,
        Messages.english.SaysRevoked
          (matchedTitles (revoking names).revocableGroups [camera, phone]) switch.summary := by
  intro camera phone names others
  have same : (revoking names).revocableGroups ~ (revoking others).revocableGroups := by decide
  have entries : (Section.mk .allowed [camera, phone]).entries ~
      (Section.mk .allowed [phone, camera]).entries := .swap _ _ _
  have distinct : ((Section.mk .allowed [camera, phone]).entries.map (·.key)).Nodup := by decide
  exact ⟨rfl, same, entries, distinct, switch_order_irrelevant rfl same entries distinct .english⟩

/-! ### Which titles are listed -/

/-- How often the group of an entry is named. -/
def Entry.timesNamed (names : List String) (entry : Entry) : Nat :=
  entry.group?.elim 0 fun name => names.count name

theorem Entry.timesNamed_pos_iff (names : List String) (entry : Entry) :
    0 < entry.timesNamed names ↔ entry.group?.any (· ∈ names) = true := by
  unfold timesNamed
  cases entry.group? with
  | none => simp
  | some name => simp [List.count_pos_iff]

namespace Section

variable (shown : Section) (names : List String)

/-- The titles of the groups on display, each as often as its group is named. -/
def titlesNamed : Multiset String :=
  shown.groupEntries.flatMap fun entry => List.replicate (entry.timesNamed names) entry.title

/-- The title of the other entry that can be found, as often as its key is named. -/
def titlesMistaken : Multiset String :=
  shown.keyedApart?.elim 0 fun other => Multiset.replicate (names.count other.key) other.title

/-- The titles of the groups on display that are named, each once. -/
def titlesOnce : Multiset String :=
  (shown.groupEntries.filter fun entry => entry.group?.any (· ∈ names)).map (·.title)

/-- What the switch says about a section, given the names of groups to be revoked. -/
structure NamesRevocable (messages : Messages) (switch : AutoRevoke) : Prop where
  /-- It lists each group on display as often as it is named, and likewise the other entry if its key
  is named and no group on display has it. -/
  summary :
    messages.SaysRevoked (shown.titlesNamed names + shown.titlesMistaken names) switch.summary
  /-- Exactly if no group on display is named twice, nor the other entry at all, these are the titles
  of the groups that are named, each once. -/
  once_iff : shown.titlesNamed names + shown.titlesMistaken names = shown.titlesOnce names ↔
    (∀ entry ∈ shown.groupEntries, entry.timesNamed names ≤ 1) ∧
      ∀ other ∈ shown.keyedApart?, other.key ∉ names

end Section

section Counting

variable {α β : Type} {elements : List α}

/-- How often elements occur is the number of those that occur at all, and for each how often it
occurs beyond the first time. -/
theorem sum_map_eq_countP_add (elements : List α) (times : α → Nat) :
    (elements.map times).sum =
      elements.countP (0 < times ·) + (elements.map (times · - 1)).sum := by
  induction elements with
  | nil => rfl
  | cons a rest ih =>
    rw [List.map_cons, List.sum_cons, List.map_cons, List.sum_cons, List.countP_cons, ih]
    by_cases occurs : 0 < times a
    · simp only [occurs, decide_true, if_true]
      omega
    · simp only [occurs, decide_false, Bool.false_eq_true, if_false]
      omega

/-- Of elements that occur at most once, those are left that do occur. -/
theorem flatMap_replicate_of_le_one {times : α → Nat} (title : α → β)
    (once : ∀ a ∈ elements, times a ≤ 1) :
    (elements.flatMap fun a => List.replicate (times a) (title a)) =
      (elements.filter (0 < times ·)).map title := by
  induction elements with
  | nil => rfl
  | cons a rest ih =>
    rw [List.flatMap_cons, ih fun b mem => once b (List.mem_cons_of_mem _ mem), List.filter_cons]
    rcases Nat.le_one_iff_eq_zero_or_eq_one.mp (once a List.mem_cons_self) with none | one
    · simp [none]
    · simp [one]

end Counting

namespace Section

variable {shown : Section} {names : List String}

/-- The titles that are found are those of the groups on display and of the other entry that can be
found, each as often as it is named. -/
theorem FindsGroups.coe_revocableTitles (finds : shown.FindsGroups) (hibernation : Hibernation) :
    (hibernation.revocableTitles (some shown) : Multiset String) =
      shown.titlesNamed hibernation.revocableGroups +
        shown.titlesMistaken hibernation.revocableGroups := by
  have found : hibernation.revocableTitles (some shown) =
      hibernation.revocableGroups.filterMap fun name =>
        (shown.reachable.find? (·.key = name)).map (·.title) := by
    refine List.filterMap_congr fun name _ => ?_
    rw [Option.bind_some, finds.find?_eq]
  have times : ∀ entry ∈ shown.groupEntries,
      hibernation.revocableGroups.count entry.key =
        entry.timesNamed hibernation.revocableGroups := by
    intro entry mem
    rw [Entry.timesNamed, finds.key_eq entry mem]
    rfl
  have named : (shown.groupEntries.flatMap fun entry =>
      List.replicate (hibernation.revocableGroups.count entry.key) entry.title) =
        shown.titlesNamed hibernation.revocableGroups := by
    rw [titlesNamed]
    refine congrArg _ (List.flatMap_congr fun entry mem => ?_)
    rw [times entry mem]
  have mistaken : (shown.keyedApart?.toList.flatMap fun other =>
      List.replicate (hibernation.revocableGroups.count other.key) other.title) =
        shown.titlesMistaken hibernation.revocableGroups := by
    rw [titlesMistaken]
    cases shown.keyedApart? with
    | none => rfl
    | some other => simp [Multiset.coe_replicate]
  rw [found, Multiset.coe_eq_coe.mpr
    (filterMap_find?_perm finds.nodup_keys_reachable hibernation.revocableGroups _), reachable,
    List.flatMap_append, ← Multiset.coe_add, named, mistaken]

theorem card_titlesNamed (shown : Section) (names : List String) :
    (shown.titlesNamed names).card =
      (shown.titlesOnce names).card +
        (shown.groupEntries.map fun entry => entry.timesNamed names - 1).sum := by
  have once : (shown.titlesOnce names).card =
      shown.groupEntries.countP (0 < Entry.timesNamed names ·) := by
    rw [titlesOnce, Multiset.coe_card, List.length_map, List.countP_eq_length_filter]
    simp only [Entry.timesNamed_pos_iff, Bool.decide_eq_true]
  rw [once, ← sum_map_eq_countP_add, titlesNamed, Multiset.coe_card, List.length_flatMap]
  simp only [List.length_replicate]

theorem titlesNamed_of_once (once : ∀ entry ∈ shown.groupEntries, entry.timesNamed names ≤ 1) :
    shown.titlesNamed names = shown.titlesOnce names := by
  rw [titlesNamed, titlesOnce, flatMap_replicate_of_le_one _ once]
  simp only [Entry.timesNamed_pos_iff, Bool.decide_eq_true]

theorem titlesMistaken_eq_zero_iff :
    shown.titlesMistaken names = 0 ↔ ∀ other ∈ shown.keyedApart?, other.key ∉ names := by
  rw [titlesMistaken]
  cases shown.keyedApart? with
  | none => simp
  | some other => simp [← Multiset.card_eq_zero, List.count_eq_zero]

/-- The titles that are found are those of the groups on display that are named, each once, exactly
if no group is named twice and the other entry is not named. -/
theorem titles_eq_titlesOnce_iff :
    shown.titlesNamed names + shown.titlesMistaken names = shown.titlesOnce names ↔
      (∀ entry ∈ shown.groupEntries, entry.timesNamed names ≤ 1) ∧
        ∀ other ∈ shown.keyedApart?, other.key ∉ names := by
  constructor
  · intro same
    have card := congrArg Multiset.card same
    rw [Multiset.card_add, card_titlesNamed] at card
    have beyond : (shown.groupEntries.map fun entry => entry.timesNamed names - 1).sum = 0 := by
      omega
    have mistaken : (shown.titlesMistaken names).card = 0 := by omega
    constructor
    · intro entry mem
      have none := List.sum_eq_zero_iff_forall_eq_nat.mp beyond _ (List.mem_map_of_mem mem)
      omega
    · exact titlesMistaken_eq_zero_iff.mp (Multiset.card_eq_zero.mp mistaken)
  · rintro ⟨once, unnamed⟩
    rw [titlesMistaken_eq_zero_iff.mpr unnamed, add_zero, titlesNamed_of_once once]

end Section

/-- A screen has a section of the allowed groups. -/
theorem section?_allowed (scene : Scene) (groups : Groups) :
    (⟨scene.sections groups, none⟩ : Model).section? .allowed =
      some (scene.sectionOf .allowed (groups.listingsIn .allowed)) := by
  have first : Scene.displayOrder.filter groups.hasSection =
      .allowed :: ([.ask, .denied] : List Category).filter groups.hasSection :=
    List.filter_cons_of_pos rfl
  rw [Model.section?, Scene.sections_eq, first]
  rfl

/-- **What would be revoked.** Where revoking is turned on, the switch lists the groups of the
allowed section that are named, each as often as it is named. It also lists the entry that counts
groups or says that there are none, if that is named by its key and no group in the section has the
name. Otherwise it lists nothing else. -/
theorem namesRevocable_allowed (scene : Scene) (groups : Groups) {hibernation : Hibernation}
    (enabled : hibernation.enabledGlobal = true) (messages : Messages) :
    ∃ shown switch, (⟨scene.sections groups, none⟩ : Model).section? .allowed = some shown ∧
      hibernation.autoRevoke? (some shown) messages = some switch ∧
      shown.NamesRevocable hibernation.revocableGroups messages switch := by
  have finds : (scene.sectionOf .allowed (groups.listingsIn .allowed)).FindsGroups :=
    scene.findsGroups_sectionOf .allowed (groups.nodup_names_filter _)
  obtain ⟨switch, isSwitch⟩ : ∃ switch, hibernation.autoRevoke?
      (some (scene.sectionOf .allowed (groups.listingsIn .allowed))) messages = some switch :=
    ⟨_, if_pos enabled⟩
  have tells := Hibernation.saysRevoked_of_autoRevoke? isSwitch
  rw [finds.coe_revocableTitles] at tells
  exact ⟨_, switch, section?_allowed scene groups, isSwitch, tells,
    Section.titles_eq_titlesOnce_iff⟩

theorem namesRevocable_allowed_conflictingGroups :
    (revoking ["camera", "store", "phone", "camera"]).enabledGlobal = true ∧
      ∃ shown switch,
        (⟨bareScene.sections conflictingGroups, none⟩ : Model).section? .allowed = some shown ∧
        (revoking ["camera", "store", "phone", "camera"]).autoRevoke? (some shown) .english =
          some switch ∧
        shown.NamesRevocable ["camera", "store", "phone", "camera"] .english switch :=
  ⟨rfl, namesRevocable_allowed bareScene conflictingGroups rfl .english⟩

/-- The section of the allowed groups if there are none. -/
def emptySection : Section := ⟨.allowed, [bareScene.placeholderEntry .allowed]⟩

/-- What the section says in place of groups is listed as a group that would be revoked, if a group
of that name is named. -/
theorem placeholder_named :
    ¬ ∀ (scene : Scene) (groups : Groups) (hibernation : Hibernation),
      hibernation.enabledGlobal = true →
      ∀ shown ∈ (⟨scene.sections groups, none⟩ : Model).section? .allowed,
      ∀ switch ∈ hibernation.autoRevoke? (some shown) scene.config.messages,
        scene.config.messages.SaysRevoked (shown.titlesOnce hibernation.revocableGroups)
          switch.summary := by
  intro once
  have tells := once bareScene Groups.empty (revoking ["No permissions allowed"]) rfl emptySection
    (by decide +kernel) _ rfl
  have summary := tells.empty rfl
  revert summary
  decide +kernel

end PermissionScreen
