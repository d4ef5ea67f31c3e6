import PermissionScreen.Unicode.Case
import PermissionScreen.Unicode.Decomposition
import PermissionScreen.Unicode.Mark

/-!
The order of titles. Letters are compared first, without their marks and their case, then the marks,
then the case. Titles that agree in all of this are told apart by their code points, so that only a
title is equal to itself.
-/

namespace PermissionScreen

/-- What collation has to know about characters. -/
structure Alphabet where
  decompose : List Char → List Char
  isMark : Char → Bool
  lower : Char → List Char
  isUpper : Char → Bool

namespace Alphabet

/-- The alphabet of Unicode. -/
def unicode : Alphabet where
  decompose := Unicode.decompose
  isMark := Unicode.isMark
  lower := Unicode.lowerChar
  isUpper := Unicode.isUppercase

/-- The letters of a title, without marks. -/
def letters (alphabet : Alphabet) (title : String) : List Char :=
  (alphabet.decompose title.toList).filter fun c => !alphabet.isMark c

/-- The letters in lower case. -/
def primaryKey (alphabet : Alphabet) (title : String) : List Char :=
  (alphabet.letters title).flatMap alphabet.lower

/-- The letters in lower case, with their marks. -/
def secondaryKey (alphabet : Alphabet) (title : String) : List Char :=
  (alphabet.decompose title.toList).flatMap alphabet.lower

/-- Which letters are in upper case. -/
def tertiaryKey (alphabet : Alphabet) (title : String) : List Bool :=
  (alphabet.letters title).map alphabet.isUpper

/-- The order of two titles. -/
def compare (alphabet : Alphabet) : String → String → Ordering :=
  compareLex (compareOn alphabet.primaryKey) <|
    compareLex (compareOn alphabet.secondaryKey) <|
      compareLex (compareOn alphabet.tertiaryKey) Ord.compare

/-- Sorts titles. -/
def sort (alphabet : Alphabet) (titles : List String) : List String :=
  titles.mergeSort fun left right => (alphabet.compare left right).isLE

theorem compare_eq (alphabet : Alphabet) (left right : String) :
    alphabet.compare left right =
      (Ord.compare (alphabet.primaryKey left) (alphabet.primaryKey right)).then
        ((Ord.compare (alphabet.secondaryKey left) (alphabet.secondaryKey right)).then
          ((Ord.compare (alphabet.tertiaryKey left) (alphabet.tertiaryKey right)).then
            (Ord.compare left right))) := rfl

theorem sort_perm (alphabet : Alphabet) (titles : List String) :
    (alphabet.sort titles).Perm titles :=
  List.mergeSort_perm _ _

end Alphabet
end PermissionScreen
