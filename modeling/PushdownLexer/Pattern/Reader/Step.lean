import PushdownLexer.Pattern.Footprint
import PushdownLexer.Pattern.Reader.Construct

/-!
# Reading a pattern

`Reader.step` is the whole grammar of patterns, and reading a text is folding it over the
characters, so reading `p ++ q` is reading `q` where reading `p` stopped.

## Main definitions

* `Reader.step`, `Reader.feedAll`: read one character, read a text.
* `Reader.finish`: the expression, once the text has ended.
* `Expr.ofPattern?`: the expression of a pattern.
-/

namespace PushdownLexer

namespace Reader

/-- Read a character by the mode, except for the modes that look further than one character. -/
def modeChar (r : Reader) (c : Char) : Except PatternError Reader :=
  match r.mode with
  | .sequence => r.sequenceChar c
  | .opened => if c = '?' then .ok (r.goto .openedMark) else r.openCapture.sequenceChar c
  | .openedMark =>
    match c with
    | '=' | '!' => .error .lookAround
    | '<' => .ok (r.goto .openedAngle)
    | 'P' => .ok (r.goto .openedP)
    | c => r.flagChar [] false r.flags c
  | .openedP => if c = '<' then .ok (r.goto (.groupName [])) else .error .unknownFlag
  | .openedAngle => if c = '=' || c = '!' then .error .lookAround else r.groupNameChar [] c
  | .groupName read => r.groupNameChar read c
  | .flags read off made => r.flagChar read off made c
  | .repeated least most | .counted least most =>
    if c = '?' then .ok (r.closeRepeat least most false)
    else skipping sequenceChar (r.closeRepeat least most true) c
  | .countLeast value spaced => r.countLeastChar value spaced c
  | .countComma least =>
    if c = '}' then .ok (r.goto (.counted least none)) else r.countMostChar least none false c
  | .countMost least value spaced => r.countMostChar least value spaced c
  | .escape site => r.escapeChar site c
  | .hex site digits =>
    if c = '{' then .ok (r.goto (.hexBrace site none)) else r.hexDigitsChar site digits digits 0 c
  | .hexDigits site digits left value => r.hexDigitsChar site digits left value c
  | .hexBrace site value => r.hexBraceChar site value c
  | .property site negated =>
    if c = '{' then .ok (r.goto (.propertyName site negated []))
    else r.deliverProperty site negated [c]
  | .propertyName site negated read =>
    if c = '}' then r.deliverProperty site negated read.reverse
    else .ok (r.goto (.propertyName site negated (c :: read)))
  | .wordEdge =>
    if c = '{' then .ok (r.goto .wordEdgeBrace)
    else do skipping sequenceChar (← r.pushAtom (.look (.word .change (!r.flags.unicode)))) c
  | .wordEdgeBrace =>
    if isWordEdgeChar c then .ok (r.goto (.wordEdgeName [c]))
    else do
      countLeastChar none false (← r.pushAtom (.look (.word .change (!r.flags.unicode)))) c
  | .wordEdgeName read =>
    if isWordEdgeChar c then .ok (r.goto (.wordEdgeName (c :: read)))
    else
      match c, wordEdgeNamed? read.reverse with
      | '}', some edge => r.pushAtom (.look (.word edge (!r.flags.unicode)))
      | _, _ => .error .unknownWordEdge
  | .bracketOpened =>
    if c = '^' then
      .ok ((r.mapBracket fun b => { b with negated := true }).goto (.bracketFront false))
    else r.bracketFrontChar false c
  | .bracketFront hyphen => r.bracketFrontChar hyphen c
  | .bracket => r.bracketChar c
  | .bracketPair p =>
    match SetOp.ofChar? p with
    | some op =>
      if c = p then .ok ((r.mapBracket (·.startOp r.flags op)).goto .bracket)
      else
        skipping (bracketItemChar (.char p false)) (r.goto (.bracketItem (.char p false))) c
    | none => .error .unclosedBracket
  | .bracketItem atom => r.bracketItemChar atom c
  | .bracketHyphen atom spaced => r.bracketHyphenChar atom spaced c
  | .bracketRange low => r.bracketRangeChar low c
  | .bracketForm _ | .bracketRemark .. => r.bracketChar c

/-- Read a character that is in no comment. -/
def plainStep (r : Reader) (c : Char) : Except PatternError Reader := skipping modeChar r c

/-- Read a character after the beginning `read` of a form such as `[:alpha:]`. If it turns out to be
none, `read` is read again as the beginning of an inner bracket. -/
def bracketFormStep (r : Reader) (read : List Char) (c : Char) : Except PatternError Reader :=
  let text := read ++ [c]
  match NamedSet.bracketForms.find? (·.text == text) with
  | some form => do
    let s ← r.flags.negate form.negated (r.flags.fold form.set)
    return (r.mapBracket (·.addItem s 0)).goto .bracket
  | none =>
    if NamedSet.bracketForms.any (text.isPrefixOf ·.text) then .ok (r.goto (.bracketForm text))
    else do (← (read.drop 1).foldlM plainStep r.openBracket).plainStep c

/-- Read a character after an item in brackets, a hyphen and the beginning of a comment. A closing
bracket or a hyphen makes the hyphen before the comment plain, and any other character makes it a
range, even though it may be part of the comment. -/
def bracketRemarkStep (atom : Atom) (ended : Bool) (r : Reader) (c : Char) :
    Except PatternError Reader := do
  if CharClass.isBlank c then return r.goto (.bracketRemark atom (ended || c = '\n'))
  else
    let r ←
      if c = ']' || c = '-' then
        pure ((← r.addItem atom).goto (.bracketItem (.char '-' false)))
      else pure (r.goto (.bracketRange (← rangeLow r.flags atom)))
    if ended then r.plainStep c else return { r with comment := true }

/-- Read one character. -/
def step (r : Reader) (c : Char) : Except PatternError Reader :=
  if r.comment then .ok { r with comment := c != '\n' }
  else
    match r.mode with
    | .bracketForm read => r.bracketFormStep read c
    | .bracketRemark atom ended => r.bracketRemarkStep atom ended c
    | _ => r.plainStep c

/-- Read a text. -/
def feedAll (r : Reader) (text : List Char) : Except PatternError Reader := text.foldlM step r

/-- The end of the text, seen from what was being read. -/
def settle (r : Reader) : Except PatternError Reader :=
  match r.mode with
  | .sequence => .ok r
  | .repeated least most | .counted least most => .ok (r.closeRepeat least most true)
  | .wordEdge => r.pushAtom (.look (.word .change (!r.flags.unicode)))
  | .opened | .openedMark | .openedP | .openedAngle | .groupName _ | .flags .. =>
    .error .unclosedGroup
  | .countLeast .. | .countComma _ | .countMost .. => .error .badCount
  | .escape _ | .hex .. | .hexDigits .. | .hexBrace .. | .property .. | .propertyName ..
  | .wordEdgeBrace | .wordEdgeName _ => .error .unfinishedEscape
  | .bracketOpened | .bracketFront _ | .bracket | .bracketPair _ | .bracketItem _
  | .bracketHyphen .. | .bracketRemark .. | .bracketRange _ | .bracketForm _ =>
    .error .unclosedBracket

/-- The expression of the pattern that was read. -/
def finish (r : Reader) : Except PatternError Expr := do
  let r ← r.settle
  if !r.groups.isEmpty then .error .unclosedGroup
  else
    let whole := r.body
    if maxDepth < whole.depth then .error .tooDeep
    else if !whole.expr.hasRoom then .error .tooLarge
    else return whole.expr

end Reader

/-- The expression that a pattern stands for. -/
def Expr.ofPattern? (text : List Char) : Except PatternError Expr := do
  (← Reader.feedAll {} text).finish

end PushdownLexer
