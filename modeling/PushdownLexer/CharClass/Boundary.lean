import PushdownLexer.CharClass.Grapheme
import PushdownLexer.CharClass.Word

/-!
# Characters at the edges of words and sentences

## Main definitions

* `wordBreaks`: the classes of characters between which a word may end.
* `sentenceBreaks`: the classes of characters between which a sentence may end.
-/

namespace PushdownLexer.CharClass

/-- The characters that stand for a word or a part of a word. -/
def ideographic : CharSet := CharSet.ofText
  "3006-3007 3021-3029 3038-303A 3400-4DBF 4E00-9FFF F900-FA6D FA70-FAD9 16FE4 17000-187F7
   18800-18CD5 18CFF-18D08 1B170-1B2FB 20000-2A6DF 2A700-2B739 2B740-2B81D 2B820-2CEA1
   2CEB0-2EBE0 2EBF0-2EE5D 2F800-2FA1D 30000-3134A 31350-323AF"

/-- The characters that go on the word before them. -/
def wordBreakExtend : CharSet :=
  (CharSet.unionAll [graphemeExtend, spacingMark, emojiModifier]).diff (CharSet.ofText "200D")

/-- The characters of words in Katakana. -/
def wordBreakKatakana : CharSet := CharSet.ofText
  "3031-3035 309B-309C 30A0-30FA 30FC-30FF 31F0-31FF 32D0-32FE 3300-3357 FF66-FF9D 1AFF0-1AFF3
   1AFF5-1AFFB 1AFFD-1AFFE 1B000 1B120-1B122 1B155 1B164-1B167"

/-- The characters of Hiragana. -/
def hiragana : CharSet := CharSet.ofText "3041-3096 309D-309F 1B001-1B11F 1B132 1B150-1B152 1F200"

/-- The Hebrew letters. -/
def hebrewLetter : CharSet := CharSet.ofText
  "5D0-5EA 5EF-5F2 FB1D FB1F-FB28 FB2A-FB36 FB38-FB3C FB3E FB40-FB41 FB43-FB44 FB46-FB4F"

/-- The letters of scripts that put no blanks between words. -/
def unspacedLetter : CharSet := CharSet.ofText
  "E01-E30 E32-E33 E40-E46 E81-E82 E84 E86-E8A E8C-EA3 EA5 EA7-EB0 EB2-EB3 EBD EC0-EC4 EC6
   EDC-EDF 1000-102A 103F 1050-1055 105A-105D 1061 1065-1066 106E-1070 1075-1081 108E 1780-17B3
   17D7 17DC 1950-196D 1970-1974 1980-19AB 19B0-19C9 1A20-1A54 1AA7 A9E0-A9E4 A9E6-A9EF A9FA-A9FE
   AA60-AA76 AA7A AA7E-AAAF AAB1 AAB5-AAB6 AAB9-AABD AAC0 AAC2 AADB-AADD 11700-1171A 11740-11746"

/-- Characters that are taken for letters of a word though they are not alphabetic. -/
def otherWordLetter : CharSet := CharSet.ofText
  "2C2-2C5 2D2-2D7 2DE-2DF 2E5-2EB 2ED 2EF-2FF 55A-55C 55E 58A 5F3 70F A708-A716 A720-A721
   A789-A78A AB5B"

/-- The letters of words with blanks between them. -/
def wordBreakLetter : CharSet :=
  (alphabetic.union otherWordLetter).diff
    (CharSet.unionAll [ideographic, wordBreakKatakana, hiragana, wordBreakExtend, hebrewLetter,
      unspacedLetter])

/-- The punctuation inside words. -/
def midLetter : CharSet := CharSet.ofText "3A B7 387 55F 5F4 2027 FE13 FE55 FF1A"

/-- The punctuation inside words and numbers. -/
def midNumLet : CharSet := CharSet.ofText "2E 2018-2019 2024 FE52 FF07 FF0E"

/-- The characters of numbers. -/
def wordBreakNumeric : CharSet :=
  decimalNumber.union (CharSet.ofText
    "600-605 66B 6DD 890-891 8E2 19DA 110BD 110CD")

/-- The classes of characters between which a word may end. -/
def wordBreaks : List Named :=
  [⟨["cr"], CharSet.ofText "D"⟩,
   ⟨["lf"], CharSet.ofText "A"⟩,
   ⟨["newline", "nl"], CharSet.ofText "B-C 85 2028-2029"⟩,
   ⟨["extend"], wordBreakExtend⟩,
   ⟨["zwj"], CharSet.ofText "200D"⟩,
   ⟨["fo", "format"], CharSet.ofText
     "AD 61C 180E 200E-200F 202A-202E 2060-2064 2066-206F FEFF FFF9-FFFB 13430-1343F 1BCA0-1BCA3
      1D173-1D17A E0001"⟩,
   ⟨["ri", "regionalindicator"], regionalIndicator⟩,
   ⟨["ka", "katakana"], wordBreakKatakana⟩,
   ⟨["hl", "hebrewletter"], hebrewLetter⟩,
   ⟨["le", "aletter"], wordBreakLetter⟩,
   ⟨["sq", "singlequote"], CharSet.ofText "27"⟩,
   ⟨["dq", "doublequote"], CharSet.ofText "22"⟩,
   ⟨["mb", "midnumlet"], midNumLet⟩,
   ⟨["ml", "midletter"], midLetter⟩,
   ⟨["mn", "midnum"], CharSet.ofText "2C 3B 37E 589 60C-60D 66C 7F8 2044 FE50 FE54 FF0C FF1B"⟩,
   ⟨["nu", "numeric"], wordBreakNumeric⟩,
   ⟨["ex", "extendnumlet"], connectorPunctuation.union (CharSet.ofText "202F")⟩,
   ⟨["wsegspace"], CharSet.ofText "20 1680 2000-2006 2008-200A 205F 3000"⟩]

/-- The characters that go on the sentence before them. -/
def sentenceBreakExtend : CharSet :=
  CharSet.unionAll [graphemeExtend, spacingMark, CharSet.ofText "200D"]

/-- The lowercase characters of a sentence. Georgian letters begin no sentence in capitals. -/
def sentenceBreakLower : CharSet :=
  lowercase.diff (graphemeExtend.union (CharSet.ofText "10D0-10FA 10FD-10FF"))

/-- The characters that a sentence may begin with. -/
def sentenceBreakUpper : CharSet :=
  (uppercase.union titlecaseLetter).diff (CharSet.ofText "1C90-1CBA 1CBD-1CBF")

/-- The other letters of a sentence. -/
def sentenceBreakLetter : CharSet :=
  (alphabetic.union (CharSet.ofText "5F3")).diff
    (CharSet.unionAll [sentenceBreakLower, sentenceBreakUpper, sentenceBreakExtend])

/-- The marks that end a sentence. -/
def sentenceTerminal : CharSet := CharSet.ofText
  "21 2E 3F 589 61D-61F 6D4 700-702 7F9 837 839 83D-83E 964-965 104A-104B 1362 1367-1368 166E
   1735-1736 17D4-17D5 1803 1809 1944-1945 1AA8-1AAB 1B4E-1B4F 1B5A-1B5B 1B5E-1B5F 1B7D-1B7F
   1C3B-1C3C 1C7E-1C7F 2024 203C-203D 2047-2049 2CF9-2CFB 2E2E 2E3C 2E53-2E54 3002 A4FF A60E-A60F
   A6F3 A6F7 A876-A877 A8CE-A8CF A92F A9C8-A9C9 AA5D-AA5F AAF0-AAF1 ABEB FE12 FE15-FE16 FE52
   FE56-FE57 FF01 FF0E FF1F FF61 10A56-10A57 10F55-10F59 10F86-10F89 11047-11048 110BE-110C1
   11141-11143 111C5-111C6 111CD 111DE-111DF 11238-11239 1123B-1123C 112A9 113D4-113D5
   1144B-1144C 115C2-115C3 115C9-115D7 11641-11642 1173C-1173E 11944 11946 11A42-11A43
   11A9B-11A9C 11C41-11C42 11EF7-11EF8 11F43-11F44 16A6E-16A6F 16AF5 16B37-16B38 16B44
   16D6E-16D6F 16E98 1BC9F 1DA88"

/-- The marks that end a sentence or an abbreviation. -/
def fullStop : CharSet := CharSet.ofText "2E 2024 FE52 FF0E"

/-- The classes of characters between which a sentence may end. -/
def sentenceBreaks : List Named :=
  [⟨["cr"], CharSet.ofText "D"⟩,
   ⟨["lf"], CharSet.ofText "A"⟩,
   ⟨["se", "sep"], CharSet.ofText "85 2028-2029"⟩,
   ⟨["ex", "extend"], sentenceBreakExtend⟩,
   ⟨["fo", "format"], CharSet.ofText
     "AD 61C 70F 180E 200B 200E-200F 202A-202E 2060-2064 2066-206F FEFF FFF9-FFFB 13430-1343F
      1BCA0-1BCA3 1D173-1D17A E0001"⟩,
   ⟨["sp"], CharSet.ofText "9 B-C 20 A0 1680 2000-200A 202F 205F 3000"⟩,
   ⟨["lo", "lower"], sentenceBreakLower⟩,
   ⟨["up", "upper"], sentenceBreakUpper⟩,
   ⟨["le", "oletter"], sentenceBreakLetter⟩,
   ⟨["nu", "numeric"], wordBreakNumeric.union (CharSet.ofText "66C")⟩,
   ⟨["at", "aterm"], fullStop⟩,
   ⟨["sc", "scontinue"], CharSet.ofText
     "2C-2D 3A-3B 37E 55D 60C-60D 7F8 1802 1808 2013-2014 3001 FE10-FE11 FE13-FE14 FE31-FE32
      FE50-FE51 FE54-FE55 FE58 FE63 FF0C-FF0D FF1A-FF1B FF64"⟩,
   ⟨["st", "sterm"], sentenceTerminal.diff fullStop⟩,
   ⟨["cl", "close"], CharSet.ofText
     "22 27-29 5B 5D 7B 7D AB BB F3A-F3D 169B-169C 2018-201F 2039-203A 2045-2046 207D-207E
      208D-208E 2308-230B 2329-232A 275B-2760 2768-2775 27C5-27C6 27E6-27EF 2983-2998 29D8-29DB
      29FC-29FD 2E00-2E0D 2E1C-2E1D 2E20-2E29 2E42 2E55-2E5C 3008-3011 3014-301B 301D-301F
      FD3E-FD3F FE17-FE18 FE35-FE44 FE47-FE48 FE59-FE5E FF08-FF09 FF3B FF3D FF5B FF5D FF5F-FF60
      FF62-FF63 1F676-1F678"⟩]

end PushdownLexer.CharClass
