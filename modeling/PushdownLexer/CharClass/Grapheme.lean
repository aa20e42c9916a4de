import PushdownLexer.CharClass.Category

/-!
# Characters that make up a grapheme

What a reader takes for one character, a grapheme, may be a sequence of code points.

## Main definitions

* `graphemeExtend`, `graphemeBase`: the characters that go on a grapheme, or begin one.
* `defaultIgnorable`: the characters that do not show if they are not supported.
* `graphemeBreaks`: the classes of characters between which a grapheme may end.
-/

namespace PushdownLexer.CharClass

/-- Characters that extend the one before them though they are no
nonspacing or enclosing mark. -/
def otherGraphemeExtend : CharSet := CharSet.ofText
  "9BE 9D7 B3E B57 BBE BD7 CC0 CC2 CC7-CC8 CCA-CCB CD5-CD6 D3E D57 DCF DDF 1715 1734 1B35 1B3B
   1B3D 1B43-1B44 1BAA 1BF2-1BF3 200C 302E-302F A953 A9C0 FF9E-FF9F 111C0 11235 1133E 1134D 11357
   113B8 113C2 113C5 113C7-113C9 113CF 114B0 114BD 115AF 116B6 11930 1193D 11F41 16FF0-16FF1
   1D165-1D166 1D16D-1D172 E0020-E007F"

/-- The characters that extend the one before them. -/
def graphemeExtend : CharSet :=
  CharSet.unionAll [nonspacingMark, enclosingMark, otherGraphemeExtend]

/-- The characters that a grapheme may begin with. -/
def graphemeBase : CharSet :=
  (CharSet.unionAll [other, lineSeparator, paragraphSeparator, graphemeExtend]).complement

/-- The modifiers of skin colour. -/
def emojiModifier : CharSet := CharSet.ofText "1F3FB-1F3FF"

/-- The letters of which two make a flag. -/
def regionalIndicator : CharSet := CharSet.ofText "1F1E6-1F1FF"

/-- Format characters that show, around the digits after them. -/
def prependedConcatenationMark : CharSet := CharSet.ofText "600-605 6DD 70F 890-891 8E2 110BD 110CD"

/-- The characters that choose a form of the one before them. -/
def variationSelector : CharSet := CharSet.ofText "180B-180D 180F FE00-FE0F E0100-E01EF"

/-- Characters to be ignored by default that are no format characters. -/
def otherDefaultIgnorable : CharSet := CharSet.ofText
  "34F 115F-1160 17B4-17B5 2065 3164 FFA0 FFF0-FFF8 E0000 E0002-E001F E0080-E00FF E01F0-E0FFF"

/-- The characters that do not show if they are not supported. -/
def defaultIgnorable : CharSet :=
  (CharSet.unionAll [otherDefaultIgnorable, format, variationSelector]).diff
    (prependedConcatenationMark.union (CharSet.ofText "FFF9-FFFB 13430-13440"))

/-- The Hangul syllables without a final consonant. -/
def openSyllable : CharSet := CharSet.ofText "AC00-D788/1C"

/-- The characters that extend a grapheme. -/
def graphemeBreakExtend : CharSet := graphemeExtend.union emojiModifier

/-- The characters that stand by themselves. -/
def graphemeBreakControl : CharSet :=
  (CharSet.unionAll [lineSeparator, paragraphSeparator, control, format,
    unassigned.inter defaultIgnorable]).diff
    (CharSet.unionAll [CharSet.ofText "A D 200C-200D", prependedConcatenationMark,
      graphemeBreakExtend])

/-- The classes of characters between which a grapheme may end. -/
def graphemeBreaks : List Named :=
  [⟨["cr"], CharSet.ofText "D"⟩,
   ⟨["lf"], CharSet.ofText "A"⟩,
   ⟨["cn", "control"], graphemeBreakControl⟩,
   ⟨["ex", "extend"], graphemeBreakExtend⟩,
   ⟨["zwj"], CharSet.ofText "200D"⟩,
   ⟨["ri", "regionalindicator"], regionalIndicator⟩,
   ⟨["pp", "prepend"], CharSet.ofText
     "600-605 6DD 70F 890-891 8E2 D4E 110BD 110CD 111C2-111C3 113D1 1193F 11941 11A3A 11A84-11A89
      11D46 11F02"⟩,
   ⟨["sm", "spacingmark"],
     (spacingMark.diff (graphemeBreakExtend.union (CharSet.ofText
       "102B-102C 1038 1062-1064 1067-106D 1083 1087-108C 108F 109A-109C 1A61 1A63-1A64 AA7B AA7D
        11720-11721"))).union
       (CharSet.ofText "E33 EB3")⟩,
   ⟨["l"], CharSet.ofText "1100-115F A960-A97C"⟩,
   ⟨["v"], CharSet.ofText "1160-11A7 D7B0-D7C6 16D63 16D67-16D6A"⟩,
   ⟨["t"], CharSet.ofText "11A8-11FF D7CB-D7FB"⟩,
   ⟨["lv"], openSyllable⟩,
   ⟨["lvt"], (CharSet.ofRange 0xAC00 0xD7A3).diff openSyllable⟩]

end PushdownLexer.CharClass
