import PermissionScreen.Json.Reader
import PermissionScreen.Proofs.Json.Lexical

/-!
The grammar of JSON texts.

`Phrased` says which tokens make up a value, the items of an array or the members of an object, and
`Spelled` which texts spell a value. A text that spells a value is read as that value, and nothing is
left behind it (`ofText_of_spelled`); such a value does not go wrong anywhere (`isSound_of_spelled`).
-/

namespace PermissionScreen.Json

/-- A value, or what stands between the brackets of an array or an object that is not empty. -/
inductive Part where
  | value (tree : Tree)
  | items (items : List Tree)
  | members (members : List (Option String × Tree))

/-- The tokens of a part. -/
inductive Phrased : Part → List Token → Prop where
  | null : Phrased (.value .null) [.null]
  | bool (value : Bool) : Phrased (.value (.bool value)) [.bool value]
  | number (value : Option Number) : Phrased (.value (numberTree value)) [.number value]
  | text (value : Option String) : Phrased (.value (textTree value)) [.text value]
  | emptyArray : Phrased (.value (.array [] true)) [.openArray, .closeArray]
  | array {items : List Tree} {tokens : List Token} : Phrased (.items items) tokens →
      Phrased (.value (.array items true)) (.openArray :: (tokens ++ [.closeArray]))
  | emptyObject : Phrased (.value (.object [] true)) [.openObject, .closeObject]
  | object {members : List (Option String × Tree)} {tokens : List Token} :
      Phrased (.members members) tokens →
      Phrased (.value (.object members true)) (.openObject :: (tokens ++ [.closeObject]))
  | lastItem {item : Tree} {tokens : List Token} : Phrased (.value item) tokens →
      Phrased (.items [item]) tokens
  | item {item : Tree} {rest : List Tree} {front back : List Token} : Phrased (.value item) front →
      Phrased (.items rest) back → Phrased (.items (item :: rest)) (front ++ .comma :: back)
  | lastMember (name : Option String) {value : Tree} {tokens : List Token} :
      Phrased (.value value) tokens →
      Phrased (.members [(name, value)]) (.text name :: .colon :: tokens)
  | member (name : Option String) {value : Tree} {rest : List (Option String × Tree)}
      {front back : List Token} : Phrased (.value value) front → Phrased (.members rest) back →
      Phrased (.members ((name, value) :: rest)) (.text name :: .colon :: (front ++ .comma :: back))

/-- A text that spells a value. -/
def Spelled (tree : Tree) (text : String) : Prop :=
  ∃ tokens, Phrased (.value tree) tokens ∧ Lexed tokens text.toList

/-- Whether a part goes wrong nowhere. -/
def Part.isSound : Part → Bool
  | .value tree => tree.isSound
  | .items listed => itemsSound listed
  | .members listed => membersSound listed

theorem Phrased.isSound {part : Part} {tokens : List Token} (phrased : Phrased part tokens) :
    part.isSound = true := by
  induction phrased with
  | null => rfl
  | bool value => rfl
  | number value => cases value <;> rfl
  | text value => cases value <;> rfl
  | emptyArray => rfl
  | array _ ih => exact (Bool.and_true _).trans ih
  | emptyObject => rfl
  | object _ ih => exact (Bool.and_true _).trans ih
  | lastItem _ ih => exact (Bool.and_true _).trans ih
  | item _ _ first rest => exact (Bool.and_eq_true _ _).mpr ⟨first, rest⟩
  | lastMember _ _ ih => exact (Bool.and_true _).trans ih
  | member _ _ _ first rest => exact (Bool.and_eq_true _ _).mpr ⟨first, rest⟩

theorem isSound_of_spelled {tree : Tree} {text : String} (spelled : Spelled tree text) :
    tree.isSound = true := by
  obtain ⟨tokens, phrased, _⟩ := spelled
  exact phrased.isSound

/-! ### Reading -/

/-- The tokens of a part do not start with a closing bracket. -/
theorem Phrased.exists_head {part : Part} {tokens : List Token}
    (phrased : Phrased part tokens) :
    ∃ first rest, tokens = first :: rest ∧ first ≠ .closeArray ∧ first ≠ .closeObject := by
  induction phrased with
  | lastItem _ ih => exact ih
  | item _ _ ih _ =>
    obtain ⟨first, rest, rfl, other⟩ := ih
    exact ⟨first, _, rfl, other⟩
  | _ => exact ⟨_, _, rfl, nofun, nofun⟩

/-- How the reader goes on behind a part. -/
def Part.Reads (tokens : List Token) : Part → Prop
  | .value tree => ∀ containers rest,
      readValue containers (tokens ++ rest) = afterValue containers tree rest
  | .items listed => ∀ containers before rest,
      readValue (.array before :: containers) (tokens ++ .closeArray :: rest) =
        afterValue containers (.array (before.reverse ++ listed) true) rest
  | .members listed => ∀ containers before rest,
      readMember containers before (tokens ++ .closeObject :: rest) =
        afterValue containers (.object (before.reverse ++ listed) true) rest

/-- The reader takes in a part as it is meant, whatever containers are open around it. -/
theorem Phrased.reads {part : Part} {tokens : List Token} (phrased : Phrased part tokens) :
    part.Reads tokens := by
  induction phrased with
  | null => intro containers rest; rw [List.cons_append, readValue]; rfl
  | bool value => intro containers rest; rw [List.cons_append, readValue]; rfl
  | number value => intro containers rest; rw [List.cons_append, readValue]; rfl
  | text value => intro containers rest; rw [List.cons_append, readValue]; rfl
  | emptyArray => intro containers rest; rw [List.cons_append, List.cons_append, readValue]; rfl
  | @array listed tokens inside ih =>
    intro containers rest
    obtain ⟨first, others, rfl, notClose, _⟩ := inside.exists_head
    have inner := ih containers [] rest
    rw [List.cons_append] at inner
    rw [List.cons_append, List.append_assoc, List.cons_append, List.singleton_append]
    rw [readValue]
    · exact inner
    · intro rest' found
      exact notClose (List.cons.inj found).1
  | emptyObject => intro containers rest; rw [List.cons_append, List.cons_append, readValue]; rfl
  | @object listed tokens inside ih =>
    intro containers rest
    obtain ⟨first, others, rfl, _, notClose⟩ := inside.exists_head
    have inner := ih containers [] rest
    rw [List.cons_append] at inner
    rw [List.cons_append, List.append_assoc, List.cons_append, List.singleton_append]
    rw [readValue]
    · exact inner
    · intro rest' found
      exact notClose (List.cons.inj found).1
  | lastItem _ ih =>
    intro containers before rest
    rw [ih, afterValue]
  | item _ _ first rest =>
    intro containers before behind
    rw [List.append_assoc, List.cons_append, first, afterValue, rest]
    simp
  | lastMember name _ ih =>
    intro containers before rest
    rw [List.cons_append, List.cons_append, readMember, ih, afterValue]
  | member name _ _ first rest =>
    intro containers before behind
    rw [List.cons_append, List.cons_append, readMember, List.append_assoc, List.cons_append, first,
      afterValue, rest]
    simp

/-- A text that spells a value is read as that value. -/
theorem ofText_of_spelled {tree : Tree} {text : String} (spelled : Spelled tree text) :
    Document.ofText text = ⟨tree, false⟩ := by
  obtain ⟨tokens, phrased, lexed⟩ := spelled
  have reads := phrased.reads [] []
  rw [List.append_nil] at reads
  rw [Document.ofText, tokenize_of_lexed lexed, reads, afterValue]

end PermissionScreen.Json
