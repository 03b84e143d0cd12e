import Rollout.Text.Hexadecimal
import Rollout.Text.Ranges

/-!
# Names that spell a code point

The characters of some scripts have no names of their own. They are called by a common beginning
and by their code point, in four or five hexadecimal digits with capital letters.
-/

namespace Rollout.Text.CharacterName

/-- Characters that share the beginning of their names; in a padded series the digits may begin
with a zero. -/
structure Series where
  start : String
  codes : Ranges
  padded : Bool

/-- Recognise the digits of a code point. -/
def isCodePoint (ds : List Char) : Bool :=
  (ds.length == 4 || ds.length == 5) && ds.all fun d => isHex d && d.toNat ≤ 70

/-- The code point that a name of the series spells. -/
def Series.find? (series : Series) (name : List Char) : Option Nat :=
  let start := series.start.toList
  let ds := name.drop start.length
  if start.isPrefixOf name && isCodePoint ds && (series.padded || ds.head? != some '0') &&
      series.codes.holds (inBase 16 ds) then
    some (inBase 16 ds)
  else none

/-- The ideographs shared by the East Asian scripts. -/
def unifiedIdeographs : Series where
  start := "CJK UNIFIED IDEOGRAPH-"
  codes :=
    [(0x3400, 0x4dbf), (0x4e00, 0x9fff), (0x20000, 0x2a6df), (0x2a700, 0x2b738),
     (0x2b740, 0x2b81d), (0x2b820, 0x2cea1), (0x2ceb0, 0x2ebe0), (0x30000, 0x3134a)]
  padded := true

/-- The other series. -/
def numberedSeries : List Series :=
  [⟨"CJK COMPATIBILITY IDEOGRAPH-", [(0xf900, 0xfa6d), (0xfa70, 0xfad9), (0x2f800, 0x2fa1d)],
    false⟩,
   ⟨"KHITAN SMALL SCRIPT CHARACTER-", [(0x18b00, 0x18cd5)], false⟩,
   ⟨"NUSHU CHARACTER-", [(0x1b170, 0x1b2fb)], false⟩]

end Rollout.Text.CharacterName
