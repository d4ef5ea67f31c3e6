/-!
Permission groups and how they are granted. An app's groups are listed by category; a category
that is not listed counts as an empty one.
-/

namespace PermissionScreen

/-- How a group is granted. -/
inductive Category where
  | allowed
  | allowedForeground
  | ask
  | denied
  deriving DecidableEq, Repr

namespace Category

/-- The categories in the order in which their groups are listed. -/
def all : List Category := [.allowed, .allowedForeground, .ask, .denied]

def name : Category → String
  | .allowed => "allowed"
  | .allowedForeground => "allowed_foreground"
  | .ask => "ask"
  | .denied => "denied"

/-- The category of the section that shows the group. What is allowed in the foreground only is
shown with what is allowed. -/
def display : Category → Category
  | .allowedForeground => .allowed
  | category => category

/-- The place of a category among all. -/
def index (category : Category) : Nat := all.idxOf category

theorem mem_all (category : Category) : category ∈ all := by cases category <;> decide

theorem name_injective {a b : Category} (h : a.name = b.name) : a = b := by
  revert h
  cases a <;> cases b <;> decide

end Category

/-- What the line under a group's title says about the kind of access. -/
inductive Subtitle where
  | plain
  | foregroundOnly
  | mediaOnly
  | allFiles
  deriving DecidableEq, Repr

/-- A permission group of an app. -/
structure Descriptor where
  group : String
  subtitle : Subtitle := .plain
  /-- Whether the platform defines the group; otherwise an app does. -/
  isSystem : Bool := true
  deriving DecidableEq, Repr

namespace Descriptor

/-- A group that an app defines. -/
def custom (descriptor : Descriptor) : Descriptor := { descriptor with isSystem := false }

def withSubtitle (descriptor : Descriptor) (subtitle : Subtitle) : Descriptor :=
  { descriptor with subtitle }

end Descriptor

/-- The groups of an app by category. -/
structure Groups where
  listed : Category → Option (List Descriptor)

namespace Groups

def empty : Groups := ⟨fun _ => none⟩

/-- The groups of a category. -/
def get (groups : Groups) (category : Category) : List Descriptor :=
  (groups.listed category).getD []

/-- Lists the groups of a category, in place of those listed before. -/
def set (groups : Groups) (category : Category) (descriptors : List Descriptor) : Groups :=
  ⟨fun other => if other = category then some descriptors else groups.listed other⟩

/-- Each group with its category, category by category. -/
def listings (groups : Groups) (categories : List Category) : List (Category × Descriptor) :=
  categories.flatMap fun category => (groups.get category).map (category, ·)

theorem ext_listed {groups others : Groups}
    (h : ∀ category, groups.listed category = others.listed category) : groups = others := by
  cases groups
  cases others
  congr
  exact funext h

instance : DecidableEq Groups := fun groups others =>
  decidable_of_iff (∀ category ∈ Category.all, groups.listed category = others.listed category)
    ⟨fun h => ext_listed fun category => h category category.mem_all, fun h _ _ => h ▸ rfl⟩

theorem mem_listings {groups : Groups} {categories : List Category}
    {listing : Category × Descriptor} :
    listing ∈ groups.listings categories ↔
      listing.1 ∈ categories ∧ listing.2 ∈ groups.get listing.1 := by
  obtain ⟨category, descriptor⟩ := listing
  simp [listings]

end Groups
end PermissionScreen
