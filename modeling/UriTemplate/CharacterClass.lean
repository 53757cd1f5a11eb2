import UriTemplate.Text.Basic

/-
This file sorts code points into the character classes of the URI grammar, which are looked up in
tables of bits.
-/

namespace UriTemplate

namespace CodePoint

/-- These are the letters, the digits and four marks, which never need escaping. -/
def isUnreserved (codePoint : CodePoint) : Bool :=
  codePoint.isLetter || codePoint.isDigit ||
    (Text.ofString "-._~").contains codePoint

/-- These delimit the components of a URI and the parts inside them. -/
def isReserved (codePoint : CodePoint) : Bool :=
  (Text.ofString ":/?#[]@!$&'()*+,;=").contains codePoint

/-- The reserved characters that a component may use for its own structure. -/
def isSubDelimiter (codePoint : CodePoint) : Bool :=
  (Text.ofString "!$&'()*+,;=").contains codePoint

/-- The characters of a variable name, percent triplets apart. -/
def isVarchar (codePoint : CodePoint) : Bool :=
  codePoint.isLetter || codePoint.isDigit || codePoint = '_'

end CodePoint

/-- A set of numbers as a table of bits. The bits of the words, the lowest of each word first, tell
of the numbers from the first one on whether they belong to the set. -/
structure CharacterTable where
  first : Nat
  last : Nat
  words : List Nat
  fits : last - first < 32 * words.length := by decide

namespace CharacterTable

/-- The upper bits of an index count the words, and the lower five the bits of a word. -/
def bit (table : CharacterTable) (index : Nat) (inside : index ≤ table.last - table.first) : Bool :=
  have isWord : index >>> 5 < table.words.length := by
    have fits := table.fits
    rw [Nat.shiftRight_eq_div_pow]
    omega
  (table.words.get ⟨index >>> 5, isWord⟩ >>> (index &&& 31)) &&& 1 = 1

/-- Numbers outside the range of the table do not belong to the set. -/
def contains (table : CharacterTable) (number : Int) : Bool :=
  if inside : table.first ≤ number ∧ number ≤ table.last then
    table.bit (number - table.first).toNat (by omega)
  else false

def unreserved : CharacterTable :=
  ⟨45, 126, [0xFFF01FFB, 0xFFF43FFF, 0x00023FFF], by decide⟩

def reserved : CharacterTable :=
  ⟨33, 93, [0xD6004FED, 0x14000000], by decide⟩

def hexDigits : CharacterTable :=
  ⟨48, 102, [0x007E03FF, 0x007E0000], by decide⟩

theorem contains_eq_false {table : CharacterTable} {number : Int} (behind : table.last < number) :
    table.contains number = false :=
  dif_neg fun inside => absurd inside.2 (Int.not_le.mpr behind)

/-- A table decides a set of code points if it does so for ASCII and the set holds no others. -/
theorem contains_eq {table : CharacterTable} {test : CodePoint → Bool} (isAscii : table.last < 128)
    (agrees : ∀ value : Nat, (inRange : value < 128) →
      table.contains value = test ⟨value, Nat.lt_trans inRange (by decide)⟩)
    (others : ∀ codePoint : CodePoint, 128 ≤ codePoint.value → test codePoint = false)
    (codePoint : CodePoint) : table.contains codePoint.value = test codePoint := by
  by_cases inRange : codePoint.value < 128
  · exact agrees codePoint.value inRange
  · rw [others codePoint (Nat.not_lt.mp inRange), contains_eq_false (by omega)]

end CharacterTable

namespace CodePoint

/-- The characters of an ASCII text are ASCII. -/
theorem contains_eq_false {marks : Text} (areAscii : ∀ mark ∈ marks, mark.value < 128)
    {codePoint : CodePoint} (isBehind : 128 ≤ codePoint.value) :
    marks.contains codePoint = false := by
  refine Bool.eq_false_iff.mpr fun isMark => ?_
  exact absurd (areAscii codePoint (List.contains_iff_mem.mp isMark)) (Nat.not_lt.mpr isBehind)

/-- The tables decide the sets of the URI grammar. -/
theorem contains_tables (codePoint : CodePoint) :
    CharacterTable.unreserved.contains codePoint.value = codePoint.isUnreserved ∧
      CharacterTable.reserved.contains codePoint.value = codePoint.isReserved ∧
      CharacterTable.hexDigits.contains codePoint.value = codePoint.isHexDigit := by
  refine ⟨CharacterTable.contains_eq (by decide) (by decide +kernel) ?_ codePoint,
    CharacterTable.contains_eq (by decide) (by decide +kernel) ?_ codePoint,
    CharacterTable.contains_eq (by decide) (by decide +kernel) ?_ codePoint⟩
  all_goals intro other isBehind
  · have noMark : (Text.ofString "-._~").contains other = false :=
      contains_eq_false (by decide) isBehind
    rw [isUnreserved, noMark]
    simp [isLetter, isDigit, isBetween]
    omega
  · exact contains_eq_false (by decide) isBehind
  · simp [isHexDigit, isDigit, isBetween]
    omega

end CodePoint

inductive CharacterClass
  | unreserved
  | reserved
  | other
  deriving DecidableEq

namespace CharacterClass

/-- A number that is no code point belongs to no class of characters. -/
def ofInt (number : Int) : CharacterClass :=
  if CharacterTable.unreserved.contains number then .unreserved
  else if CharacterTable.reserved.contains number then .reserved
  else .other

def name : CharacterClass → Text
  | unreserved => "unreserved"
  | reserved => "reserved"
  | other => "other"

end CharacterClass

end UriTemplate
