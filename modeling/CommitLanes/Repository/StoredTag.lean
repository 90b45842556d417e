import CommitLanes.Repository.Object
import CommitLanes.Repository.Signature

/-! Tags as repositories store them: the object they name, its kind, and who named it. -/

set_option autoImplicit false

namespace CommitLanes.Repository

structure StoredTag where
  target : ObjectId
  kind : Object.Kind
  deriving DecidableEq

namespace StoredTag

/-- The line with the kind of the target. Something must follow it. -/
def kindLine? (text : Bytes) : Option (Object.Kind × Bytes) := do
  let rest ← Bytes.after? (Bytes.ofString "type ") text
  if rest.length ≤ 7 then none
  else
    let (word, rest) ← Pieces.cut Bytes.isNewline rest
    some (← Object.Kind.ofWord? word, rest)

/-- What stands behind the name: perhaps who made the tag, and a message behind a blank
line. -/
def isTrailer (text : Bytes) : Bool :=
  match text with
  | [] => true
  | b :: _ =>
      Bytes.isNewline b ||
        match Signature.line? "tagger " text with
        | none => false
        | some (_, rest) =>
            rest.isEmpty || Bytes.startsWith rest [Bytes.newline] ||
              (Pieces.split Bytes.isNewline rest).tail.dropLast.contains []

def ofContent? (content : Bytes) : Option StoredTag := do
  let (target, rest) ← Object.idLine? "object " content
  let (kind, rest) ← kindLine? rest
  let rest ← Bytes.after? (Bytes.ofString "tag ") rest
  let (_, rest) ← Pieces.cut Bytes.isNewline rest
  if isTrailer rest then some ⟨target, kind⟩ else none

end StoredTag

end CommitLanes.Repository
