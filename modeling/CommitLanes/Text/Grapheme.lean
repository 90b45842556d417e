import CommitLanes.Text.Property.Cluster
import CommitLanes.Text.Property.Emoji
import CommitLanes.Text.Property.Extending

/-! User-perceived characters: extended grapheme clusters, with linked consonants kept
together.

Whether a cluster goes on is decided at each character from what is known of the cluster
so far, so one pass from the left finds all of them.
-/

set_option autoImplicit false

namespace CommitLanes.Grapheme

open Property (has)

inductive Class where
  | carriageReturn
  | lineFeed
  | control
  | extending
  | joiner
  | regional
  | prepended
  | spacing
  | leading
  | vowel
  | trailing
  | openSyllable
  | closedSyllable
  | other
  deriving DecidableEq, Repr

def isModifier (c : Char) : Bool :=
  0x1F3FB ≤ c.toNat && c.toNat ≤ 0x1F3FF

def isRegional (c : Char) : Bool :=
  0x1F1E6 ≤ c.toNat && c.toNat ≤ 0x1F1FF

/-- Conjoining letters and whole syllables of hangul. A syllable without a final
consonant is every twenty-eighth. The vowels of Kirat Rai combine in the same way. -/
def hangulClass (code : Nat) : Class :=
  if (0x1100 ≤ code && code ≤ 0x115F) || (0xA960 ≤ code && code ≤ 0xA97C) then .leading
  else if (0x1160 ≤ code && code ≤ 0x11A7) || (0xD7B0 ≤ code && code ≤ 0xD7C6) ||
      code = 0x16D63 || (0x16D67 ≤ code && code ≤ 0x16D6A) then .vowel
  else if (0x11A8 ≤ code && code ≤ 0x11FF) || (0xD7CB ≤ code && code ≤ 0xD7FB) then .trailing
  else if 0xAC00 ≤ code && code ≤ 0xD7A3 then
    if (code - 0xAC00) % 28 = 0 then .openSyllable else .closedSyllable
  else .other

def classOf (c : Char) : Class :=
  if c = '\r' then .carriageReturn
  else if c = '\n' then .lineFeed
  else if has Property.control c then .control
  else if c = '\u200d' then .joiner
  else if has Property.extending c || isModifier c then .extending
  else if isRegional c then .regional
  else if has Property.prepended c then .prepended
  else if has Property.spacing c then .spacing
  else hangulClass c.toNat

inductive Conjunct where
  | none
  | consonant
  | linked
  deriving DecidableEq, Repr

inductive Picture where
  | none
  | picture
  | joined
  deriving DecidableEq, Repr

structure State where
  last : Class
  picture : Picture
  /-- An odd number of regional indicators stands at the end. -/
  halfFlag : Bool
  conjunct : Conjunct
  deriving DecidableEq, Repr

def Picture.advance (c : Char) (last : Class) (before : Picture) : Picture :=
  if has Property.pictographic c then .picture
  else match before, last with
    | .picture, .extending => .picture
    | .picture, .joiner => .joined
    | _, _ => .none

def Conjunct.advance (c : Char) (last : Class) (conjunct : Conjunct) : Conjunct :=
  if has Property.linkable c then .consonant
  else if conjunct = .none then .none
  else if has Property.linker c then .linked
  else if (last = .extending || last = .joiner) && c ≠ '\u200c' then conjunct
  else .none

def State.advance (state : State) (c : Char) : State :=
  let last := classOf c
  { last
    picture := state.picture.advance c last
    halfFlag := last = .regional && !state.halfFlag
    conjunct := state.conjunct.advance c last }

def State.single (c : Char) : State :=
  State.advance ⟨.other, .none, false, .none⟩ c

def endsCluster (c : Class) : Bool :=
  c = .control || c = .carriageReturn || c = .lineFeed

def hangulJoins : Class → Class → Bool
  | .leading, next =>
      next = .leading || next = .vowel || next = .openSyllable || next = .closedSyllable
  | .openSyllable, next | .vowel, next => next = .vowel || next = .trailing
  | .closedSyllable, next | .trailing, next => next = .trailing
  | _, _ => false

def State.joins (state : State) (c : Char) : Bool :=
  let next := classOf c
  if state.last = .carriageReturn && next = .lineFeed then true
  else if endsCluster state.last || endsCluster next then false
  else
    hangulJoins state.last next || next = .extending || next = .joiner || next = .spacing ||
      state.last = .prepended ||
      (state.conjunct = .linked && has Property.linkable c) ||
      (state.picture = .joined && has Property.pictographic c) ||
      (state.halfFlag && next = .regional)

/-- The clusters of a text whose first one has begun; `cluster` is in reverse. -/
def clustersFrom (cluster : Text) (state : State) : Text → List Text
  | [] => [cluster.reverse]
  | c :: rest =>
      if state.joins c then clustersFrom (c :: cluster) (state.advance c) rest
      else cluster.reverse :: clustersFrom [c] (.single c) rest

def clusters : Text → List Text
  | [] => []
  | c :: rest => clustersFrom [c] (.single c) rest

theorem flatten_clustersFrom (cluster : Text) (state : State) (text : Text) :
    (clustersFrom cluster state text).flatten = cluster.reverse ++ text := by
  induction text generalizing cluster state with
  | nil => simp [clustersFrom]
  | cons c rest ih =>
      unfold clustersFrom
      split <;> simp [ih]

theorem flatten_clusters (text : Text) : (clusters text).flatten = text := by
  cases text with
  | nil => rfl
  | cons c rest => simp [clusters, flatten_clustersFrom]

end CommitLanes.Grapheme
