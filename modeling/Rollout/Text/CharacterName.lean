import Rollout.Text.CharacterName.Aegean
import Rollout.Text.CharacterName.African
import Rollout.Text.CharacterName.Aliases
import Rollout.Text.CharacterName.American
import Rollout.Text.CharacterName.Brahmic
import Rollout.Text.CharacterName.Cuneiform
import Rollout.Text.CharacterName.EastAsian
import Rollout.Text.CharacterName.European
import Rollout.Text.CharacterName.Hangul
import Rollout.Text.CharacterName.Indic
import Rollout.Text.CharacterName.Latin
import Rollout.Text.CharacterName.Mathematical
import Rollout.Text.CharacterName.MiddleEastern
import Rollout.Text.CharacterName.Notation
import Rollout.Text.CharacterName.Pictographs
import Rollout.Text.CharacterName.Series
import Rollout.Text.CharacterName.SoutheastAsian
import Rollout.Text.CharacterName.Symbols
import Rollout.Text.Search

/-!
# Characters by name

A character can be given by its name in the Unicode standard. Most names are listed in tables and
may be written in letters of either case. The names of ideographs and of Hangul syllables are
spelled by rule: those of unified ideographs and of syllables must be in capital letters. A name
that belongs to a sequence of characters stands for no single one and is not known.
-/

namespace Rollout.Text

/-- The upper-case form of an ASCII letter. -/
def upperPlain (c : Char) : Char :=
  if 97 ≤ c.toNat && c.toNat ≤ 122 then Char.ofNat (c.toNat - 32) else c

/-- The endings of the names in a row, in order. -/
def NameRow.endings (row : NameRow) : List (List Char) :=
  row.lines.flatMap fun line => splitAt ';' line.toList

/-- The code point that a row gives to a name. -/
def NameRow.find? (row : NameRow) (name : List Char) : Option Nat :=
  let start := row.start.toList
  if start.isPrefixOf name then
    (row.endings.findIdx? (· == name.drop start.length)).map (row.first + ·)
  else none

namespace CharacterName

/-- The tables of names. -/
def tables : List (List NameRow) :=
  [latinRows, addedLatinRows, phoneticRows, modifierRows, combiningRows, greekRows, cyrillicRows,
   slavonicRows, caucasianRows, runicRows, oldEuropeanRows, linearRows, cypriotRows,
   greekNumberRows, phaistosRows, anatolianRows, hebrewRows, arabicRows, arabicFormRows,
   arabicSignRows, syriacRows, semiticRows, iranianRows, cuneiformRows, cuneiformNumberRows,
   hieroglyphRows, meroiticRows, ethiopicRows, westAfricanRows, eastAfricanRows, devanagariRows,
   northIndianRows, dravidianRows, sinhalaRows, himalayanRows, tribalRows, brahmiRows,
   historicIndianRows, centralAsianRows, thaiRows, burmeseRows, khmerRows, hmongRows,
   indonesianRows, philippineRows, radicalRows, ideographMarkRows, kanaRows, bopomofoRows,
   jamoRows, enclosedRows, widthRows, yiRows, tangutRows, cherokeeRows, canadianRows, deseretRows,
   musicRows, signWritingRows, brailleRows, shorthandRows, punctuationRows, numberRows,
   currencyRows, letterlikeRows, arrowRows, technicalRows, shapeRows, formatRows, operatorRows,
   styledLetterRows, dingbatRows, pictographRows, gameRows, divinationRows, variantRows]

/-- The code point of a name in capital letters that is listed or belongs to a listed series. -/
def listed? (name : List Char) : Option Nat :=
  tables.findSome? (fun rows => rows.findSome? (·.find? name))
    <|> numberedSeries.findSome? (·.find? name)
    <|> aliases.lookup (String.ofList name)

end CharacterName

/-- The code point of the character with a given name. -/
def characterNamed? (name : List Char) : Option Nat :=
  CharacterName.syllable? name
    <|> CharacterName.unifiedIdeographs.find? name
    <|> CharacterName.listed? (name.map upperPlain)

end Rollout.Text
