import Calculator.Text.Cluster.Properties

/-!
# What a character does to a cluster

Every character has one class, which tells how it stands to the characters
before and after it in a cluster.
-/

namespace Calculator.Text

/-- How a character stands to its neighbours. -/
inductive BreakClass where
  | carriageReturn
  | lineFeed
  | control
  /-- Extends the character before it. -/
  | extend
  /-- Extends the character before it and links consonants. -/
  | linker
  /-- Extends the character before it and keeps consonants apart. -/
  | nonJoiner
  /-- Extends the character before it and joins pictographs. -/
  | joiner
  /-- Goes with the character before it. -/
  | spacingMark
  /-- Goes with the character after it. -/
  | prepend
  /-- Makes a flag with a second one. -/
  | regional
  | leading
  | vowel
  | trailing
  /-- A syllable of a leading consonant and a vowel. -/
  | openSyllable
  /-- A syllable that a trailing consonant closes. -/
  | closedSyllable
  | pictograph
  /-- Can be linked to another consonant. -/
  | consonant
  | other
  deriving DecidableEq, Repr

namespace BreakClass

def ofAscii (c : Char) : BreakClass :=
  if c = '\r' then .carriageReturn
  else if c = '\n' then .lineFeed
  else if c.toNat < 0x20 ∨ c.toNat = 0x7F then .control
  else .other

/-- The class of a syllable of Hangul. The syllables are ordered by leading consonant, vowel and
trailing consonant, and the first of each 28 has no trailing consonant. -/
def ofSyllable (c : Char) : BreakClass :=
  if (c.toNat - 0xAC00) % 28 = 0 then .openSyllable else .closedSyllable

def ofTables (c : Char) : BreakClass :=
  if c.toNat = 0x200C then .nonJoiner
  else if c.toNat = 0x200D then .joiner
  else if 0xAC00 ≤ c.toNat ∧ c.toNat ≤ 0xD7A3 then ofSyllable c
  else if inRanges linkerRanges c then .linker
  else if inRanges extendRanges c then .extend
  else if inRanges spacingMarkRanges c then .spacingMark
  else if inRanges controlRanges c then .control
  else if inRanges prependRanges c then .prepend
  else if inRanges regionalRanges c then .regional
  else if inRanges leadingRanges c then .leading
  else if inRanges vowelRanges c then .vowel
  else if inRanges trailingRanges c then .trailing
  else if inRanges pictographRanges c then .pictograph
  else if inRanges consonantRanges c then .consonant
  else .other

def ofChar (c : Char) : BreakClass :=
  if c.toNat < 0x80 then ofAscii c else ofTables c

/-- Whether nothing joins a character on either side. -/
def isControl : BreakClass → Bool
  | .carriageReturn | .lineFeed | .control => true
  | _ => false

/-- Whether a character extends the one before it. -/
def isExtending : BreakClass → Bool
  | .extend | .linker | .nonJoiner => true
  | _ => false

/-- Whether a character joins whatever stands before it. -/
def joinsBackward : BreakClass → Bool
  | .joiner | .spacingMark => true
  | next => next.isExtending

/-- Whether a mark can stand between two linked consonants. -/
def isConjunctMark : BreakClass → Bool
  | .extend | .linker | .joiner => true
  | _ => false

/-- Whether a character continues the Hangul syllable that another one began. -/
def continuesSyllable : BreakClass → BreakClass → Bool
  | .leading, .leading | .leading, .vowel | .leading, .openSyllable | .leading, .closedSyllable
  | .vowel, .vowel | .vowel, .trailing | .openSyllable, .vowel | .openSyllable, .trailing
  | .trailing, .trailing | .closedSyllable, .trailing => true
  | _, _ => false

end BreakClass

end Calculator.Text
