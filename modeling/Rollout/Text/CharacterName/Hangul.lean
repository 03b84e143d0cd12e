/-!
# Names of Hangul syllables

The name of a syllable spells its letters: an initial consonant, which may be silent, a vowel and
a final consonant, which may be missing. The syllables are encoded in the order of their initials,
then of their vowels, then of their finals.
-/

namespace Rollout.Text.CharacterName

/-- The spellings of the initial consonants, in order. -/
def initials : List String :=
  ["G", "GG", "N", "D", "DD", "R", "M", "B", "BB", "S", "SS", "", "J", "JJ", "C", "K", "T", "P",
   "H"]

/-- The spellings of the vowels, in order. -/
def vowels : List String :=
  ["A", "AE", "YA", "YAE", "EO", "E", "YEO", "YE", "O", "WA", "WAE", "OE", "YO", "U", "WEO", "WE",
   "WI", "YU", "EU", "YI", "I"]

/-- The spellings of the final consonants, in order. -/
def finals : List String :=
  ["", "G", "GG", "GS", "N", "NJ", "NH", "D", "L", "LG", "LM", "LB", "LS", "LT", "LP", "LH", "M",
   "B", "BS", "S", "SS", "NG", "J", "C", "K", "T", "P", "H"]

/-- The position of the longest spelling that a text begins with, and the text after it. -/
def takeLongest? (spellings : List String) (s : List Char) : Option (Nat × List Char) :=
  let fitting := spellings.zipIdx.filter fun p => p.1.toList.isPrefixOf s
  let longest := (fitting.map (·.1.length)).foldl max 0
  (fitting.find? (·.1.length == longest)).map fun p => (p.2, s.drop longest)

/-- The beginning of the names of all syllables. -/
def syllableStart : List Char := "HANGUL SYLLABLE ".toList

/-- The code point of the syllable with a given name. -/
def syllable? (name : List Char) : Option Nat :=
  if syllableStart.isPrefixOf name then
    match takeLongest? initials (name.drop syllableStart.length) with
    | none => none
    | some (l, s) =>
      match takeLongest? vowels s with
      | none => none
      | some (v, s) =>
        match takeLongest? finals s with
        | some (t, []) => some (0xac00 + (l * vowels.length + v) * finals.length + t)
        | _ => none
  else none

end Rollout.Text.CharacterName
