import CommitLanes.Text.Grapheme
import CommitLanes.Text.Property.Ignorable
import CommitLanes.Text.Property.Joining
import CommitLanes.Text.Property.Weightless
import CommitLanes.Text.Property.Wide

/-! How many columns a text takes in a terminal.

Most characters have a width of their own. Some take less in front of certain others: the
first half of a ligature, the parts of an emoji sequence, a carriage return before a line
feed. So the width is summed up from the end of the text, and what was seen last is
carried along.
-/

set_option autoImplicit false

namespace CommitLanes.Width

open Property (has)

inductive Follower where
  | other
  | lineFeed
  | modifier
  | regional
  | regionals
  | emoji
  | joinedEmoji
  | joinedKeycap
  | joinedRegional
  | joinedEvenRegionals
  | joinedOddRegionals
  | tagLetters (count : Nat)
  | tagDigits (count : Nat)
  | vowelE
  | vowelAi
  | alef
  | lamed
  | joinedLamed
  | coengLetter
  | ya
  | joinedYa
  | vowelJoinedYa
  | tifinagh
  | joinedTifinagh
  | linkedTifinagh
  | toneLetter
  | orkhonI
  | joinedOrkhonI
  deriving DecidableEq, Repr

inductive Selector where
  | none
  | text
  | emoji
  deriving DecidableEq, Repr

structure State where
  follower : Follower
  selector : Selector
  deriving DecidableEq, Repr

namespace Follower

/-- Letters that form a ligature also across characters that are not seen. -/
def seesThrough : Follower → Bool
  | lamed | joinedLamed | coengLetter | ya | joinedYa | vowelJoinedYa | tifinagh
  | joinedTifinagh | linkedTifinagh | toneLetter | orkhonI | joinedOrkhonI => true
  | _ => false

def isLetter (follower : Follower) : Bool :=
  follower = alef || follower.seesThrough

def isJoined (follower : Follower) : Bool :=
  follower = joinedEmoji || follower = joinedKeycap

def joined : Follower → Follower
  | lamed => joinedLamed
  | ya => joinedYa
  | tifinagh => joinedTifinagh
  | orkhonI => joinedOrkhonI
  | follower => follower

end Follower

namespace State

def of (follower : Follower) : State :=
  ⟨follower, .none⟩

def plain : State :=
  of .other

def passEmojiSelector (state : State) : State :=
  if state.selector = .emoji then of (if state.follower.isLetter then state.follower else .other)
  else state

def passTextSelector (state : State) : State :=
  if state.selector = .text then of state.follower else state

def selectEmoji (state : State) : State :=
  ⟨if state.follower.isLetter || state.follower.isJoined then state.follower else .other, .emoji⟩

def selectText (state : State) : State :=
  ⟨if state.follower.isLetter then state.follower else .other, .text⟩

end State

def isTifinagh (code : Nat) : Bool :=
  (0x2D31 ≤ code && code ≤ 0x2D65) || code = 0x2D6F

def isCoengLetter (code : Nat) : Bool :=
  Property.Ranges.contains code [
    (0x1780, 0x1782), (0x1784, 0x1787), (0x1789, 0x178C), (0x178E, 0x1793), (0x1795, 0x1798),
    (0x179B, 0x179D), (0x17A0, 0x17A0), (0x17A2, 0x17A2), (0x17A7, 0x17A7), (0x17AB, 0x17AC),
    (0x17AF, 0x17AF)]

def isLam (code : Nat) : Bool :=
  code = 0x0644 || (0x06B5 ≤ code && code ≤ 0x06B8) || code = 0x076A || code = 0x08A6 ||
    code = 0x08C7

def isTagLetter (code : Nat) : Bool :=
  0xE0061 ≤ code && code ≤ 0xE007A

def isTagDigit (code : Nat) : Bool :=
  0xE0030 ≤ code && code ≤ 0xE0039

/-- Takes no column by itself. The joiner of Tifinagh consonants takes one. -/
def isWeightless (c : Char) : Bool :=
  c ≠ '\u2d7f' &&
    (Property.isFiller c || Property.isUnplaced c || has Property.weightless c)

/-- Does not keep the Arabic letters around it from joining. -/
def isTransparent (c : Char) : Bool :=
  isWeightless c && !has Property.separating c

def isUnseenMark (c : Char) : Bool :=
  Property.Ranges.contains c.toNat [
    (0x034F, 0x034F), (0x17B4, 0x17B5), (0x180B, 0x180D), (0x180F, 0x180F), (0xFE00, 0xFE0F),
    (0xE0100, 0xE01EF)]

/-- The character by itself: its columns, and what it is to one in front of it. -/
def alone (c : Char) : Nat × Follower :=
  let code := c.toNat
  if isWeightless c then (0, .other)
  else if Grapheme.isRegional c then (1, .regional)
  else if Grapheme.isModifier c then (2, .modifier)
  else if has Property.emojiByDefault c then (2, .emoji)
  else if has Property.wide c || code = 0x17A4 then (2, .other)
  else if code = 0x17D8 then (3, .other)
  else if has Property.alef c then (1, .alef)
  else if code = 0x05DC then (1, .lamed)
  else if isCoengLetter code then (1, .coengLetter)
  else if code = 0x1A10 then (1, .ya)
  else if isTifinagh code then (1, .tifinagh)
  else if code = 0xA4FC || code = 0xA4FD then (1, .toneLetter)
  else if code = 0x10C03 then (1, .orkhonI)
  else if code = 0x16D67 then (1, .vowelE)
  else if code = 0x16D68 then (1, .vowelAi)
  else (1, .other)

/-- The columns of a character that forms something with what follows it, and what both
are to the character before. -/
def combined? (code : Nat) (c : Char) : Follower → Option (Int × Follower)
  | .alef =>
      if isLam code then some (0, .other) else if isTransparent c then some (0, .alef) else none
  | .joinedLamed => if code = 0x05D0 then some (0, .other) else none
  | .coengLetter => if code = 0x17D2 then some (-1, .other) else none
  | .joinedYa => if code = 0x1A17 then some (0, .vowelJoinedYa) else none
  | .vowelJoinedYa => if code = 0x1A15 then some (0, .other) else none
  | .tifinagh => if code = 0x2D7F then some (1, .linkedTifinagh) else none
  | .joinedTifinagh =>
      if code = 0x2D7F then some (1, .linkedTifinagh)
      else if isTifinagh code then some (0, .other)
      else none
  | .linkedTifinagh => if isTifinagh code then some (-1, .other) else none
  | .toneLetter => if 0xA4F8 ≤ code && code ≤ 0xA4FB then some (0, .other) else none
  | .joinedOrkhonI => if code = 0x10C32 then some (0, .other) else none
  | .modifier =>
      if has Property.modifiable c then some (0, .emoji)
      else if code = 0x200D then some (0, .joinedEmoji)
      else none
  | .regional => if Grapheme.isRegional c then some (1, .regionals) else none
  | .regionals =>
      if Grapheme.isRegional c then some (1, .regionals)
      else if code = 0x200D then some (0, .joinedEmoji)
      else none
  | .emoji => if code = 0x200D then some (0, .joinedEmoji) else none
  | .joinedEmoji =>
      if code = 0x20E3 then some (0, .joinedKeycap)
      else if Grapheme.isRegional c then some (1, .joinedRegional)
      else if Grapheme.isModifier c then some (0, .modifier)
      else if code = 0xE007F then some (0, .tagLetters 0)
      else if (alone c).2 = .emoji then some (0, .emoji)
      else none
  | .joinedRegional => if Grapheme.isRegional c then some (-1, .joinedEvenRegionals) else none
  | .joinedEvenRegionals =>
      if Grapheme.isRegional c then some (3, .joinedOddRegionals)
      else if code = 0x200D then some (0, .joinedEmoji)
      else none
  | .joinedOddRegionals =>
      if Grapheme.isRegional c then some (-1, .joinedEvenRegionals)
      else if code = 0x200D then some (0, .joinedEmoji)
      else none
  | .tagLetters count =>
      if isTagLetter code && count < 6 then some (0, .tagLetters (count + 1))
      else if isTagDigit code && count < 5 then some (0, .tagDigits 1)
      else if code = 0x1F3F4 && 3 ≤ count then some (0, .emoji)
      else none
  | .tagDigits count =>
      if isTagDigit code && count < 3 then some (0, .tagDigits (count + 1))
      else if code = 0x1F3F4 && count = 3 then some (0, .emoji)
      else none
  | .vowelE =>
      if code = 0x16D63 then some (0, .other)
      else if code = 0x16D67 then some (0, .vowelAi)
      else if code = 0x16D68 then some (1, .vowelE)
      else if code = 0x16D69 then some (0, .other)
      else none
  | .vowelAi => if code = 0x16D63 then some (0, .other) else none
  | _ => none

def stepAbove (c : Char) (state : State) : Int × State :=
  if c = '\ufe0f' then (0, state.selectEmoji)
  else if c = '\ufe0e' then (0, state.selectText)
  else if state.selector = .text && has Property.textOnDemand c then (1, .plain)
  else
    let follower := state.passTextSelector.follower
    if follower.seesThrough && c = '\u200d' then (0, .of follower.joined)
    else if follower.seesThrough && isUnseenMark c then (0, .of follower)
    else match combined? c.toNat c follower with
      | some (columns, next) => (columns, .of next)
      | none => ((alone c).1, .of (alone c).2)

/-- Control characters take a column like any other. -/
def step (c : Char) (state : State) : Int × State :=
  if state.selector = .emoji && has Property.emojiOnDemand c then
    (if state.follower.isJoined then 0 else 2, .of .emoji)
  else
    let state := state.passEmojiSelector
    -- Nothing up to the no-break space takes part in a ligature, but for a line end.
    if c ≤ '\u00a0' then
      if c = '\n' then (1, .of .lineFeed)
      else if c = '\r' && state = .of .lineFeed then (0, .plain)
      else (1, .plain)
    else stepAbove c state

/-- Columns of a text and what its beginning is to a character in front. -/
def measure (text : Text) : Int × State :=
  text.foldr (fun c (columns, state) =>
    let (more, state) := step c state
    (columns + more, state)) (0, .plain)

end CommitLanes.Width

namespace CommitLanes.Text

def width (text : Text) : Nat :=
  (Width.measure text).1.toNat

end CommitLanes.Text
