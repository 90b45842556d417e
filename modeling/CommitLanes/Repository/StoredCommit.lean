import CommitLanes.Repository.Object
import CommitLanes.Repository.Signature

/-! Commits as repositories store them: lines of fields, a blank line and the message. -/

set_option autoImplicit false

namespace CommitLanes.Repository

structure StoredCommit where
  tree : ObjectId
  parents : List ObjectId
  author : Signature
  committer : Signature
  encoding : Option Text
  message : Bytes
  deriving DecidableEq

namespace StoredCommit

def parentLines (text : Bytes) : List ObjectId × Bytes :=
  match _ : Object.idLine? "parent " text with
  | none => ([], text)
  | some (id, rest) =>
      let (ids, rest) := parentLines rest
      (id :: ids, rest)
  termination_by text.length
  decreasing_by exact Object.length_of_idLine? (by assumption)

/-- Authors in a row must be in order, even where they do not count. -/
def skipAuthors (text : Bytes) : Option Bytes :=
  if Bytes.startsWith text (Bytes.ofString "author ") then
    match _ : Signature.line? "author " text with
    | none => none
    | some (_, rest) => skipAuthors rest
  else some text
  termination_by text.length
  decreasing_by exact Signature.length_of_line? (by assumption)

/-- The encoding that the remaining lines declare, the last one if there are several, and
the message behind the blank line. -/
def endFields (encoding : Option Bytes) (text : Bytes) : Option Bytes × Bytes :=
  let declared (line : Bytes) : Option Bytes :=
    (Bytes.after? (Bytes.ofString "encoding ") line).or encoding
  match text with
  | [] => (encoding, [])
  | b :: rest =>
      if Bytes.isNewline b then (encoding, rest)
      else match _ : Pieces.cut Bytes.isNewline (b :: rest) with
        | none => (declared (b :: rest), [])
        | some (line, later) => endFields (declared line) later
  termination_by text.length
  decreasing_by exact Pieces.length_of_cut (by assumption)

/-- Texts end at a zero byte. An encoding that is no UTF-8 does not count. -/
def ofContent? (content : Bytes) : Option StoredCommit := do
  let (tree, rest) ← Object.idLine? "tree " content
  let (parents, rest) := parentLines rest
  let (author, rest) ← Signature.line? "author " rest
  let rest ← skipAuthors rest
  let (committer, rest) ← Signature.line? "committer " rest
  let (encoding, message) := endFields none rest
  some {
    tree, parents, author, committer
    encoding := encoding.bind fun label => Utf8.decode? (Bytes.untilZero label)
    message := Bytes.untilZero message }

structure Outline where
  parents : List ObjectId
  seconds : Int64
  deriving DecidableEq

/-- An outline passes over the line of the tree without reading it, and asks for no
author. -/
def outline? (content : Bytes) : Option Outline := do
  -- The word "tree ", forty digits and a newline.
  if content.length < 46 then none
  else
    let (parents, rest) := parentLines (content.drop 46)
    let rest ← skipAuthors rest
    let (committer, _) ← Signature.line? "committer " rest
    some ⟨parents, committer.seconds⟩

end StoredCommit

end CommitLanes.Repository
