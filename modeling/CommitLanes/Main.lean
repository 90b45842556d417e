import CommitLanes.Command

/-! The program: it gathers what a command may look at, runs the command, and prints. -/

set_option autoImplicit false

namespace CommitLanes.Command

def contentOf (name : String) : IO (Option Bytes) := do
  try
    return some (← IO.FS.readBinFile name).data.toList
  catch _ => return none

def namesIn (name : String) : IO (Option (List String)) := do
  try
    let place ← IO.FS.realPath name
    return some ((← place.readDir).toList.map (·.fileName))
  catch _ => return none

def entryFor (name : String) : IO (List (Text × Bytes)) := do
  if (← namesIn name).isSome then return [(name.toList ++ ['/'], [])]
  match ← contentOf name with
  | some content => return [(name.toList, content)]
  | none => return []

def entriesBelow (depth : Nat) (name : String) : IO (List (Text × Bytes)) := do
  let here ← entryFor name
  match depth, ← namesIn name with
  | depth + 1, some names =>
      return here ++ (← names.mapM fun inner => entriesBelow depth (name ++ "/" ++ inner)).flatten
  | _, _ => return here

def entriesAlong (directory name : String) : IO (List (Text × Bytes)) := do
  let full := if name.startsWith "/" then name else directory ++ "/" ++ name
  let steps := full.splitOn "/"
  let ways := (List.range steps.length).map fun n => String.intercalate "/" (steps.take (n + 1))
  return (← (ways.filter fun way => !way.isEmpty).mapM entryFor).flatten

def entriesOfHome (name : String) : IO (List (Text × Bytes)) := do
  let parts := ["HEAD", "packed-refs", "refs", "objects"]
  return (← parts.mapM fun part => entriesBelow 16 (name ++ "/" ++ part)).flatten

def entriesOfRepository (directory name : String) : IO (List (Text × Bytes)) := do
  let full := if name.startsWith "/" then name else directory ++ "/" ++ name
  let inner := full ++ "/" ++ ".git"
  let linked ← match (← contentOf inner).bind Repository.linkName? >>= Utf8.decode? with
    | some target => do
        let target := String.ofList target
        pure ((← entriesAlong full target) ++
          (← entriesOfHome (if target.startsWith "/" then target else full ++ "/" ++ target)))
    | none => pure []
  return (← entriesAlong directory name) ++ (← entryFor inner) ++ (← entriesOfHome full) ++
    (← entriesOfHome inner) ++ linked

def entriesFor (directory : String) : Request → IO (List (Text × Bytes))
  | .layout options => do
      let named := (options.config.toList ++ options.input.toList).map String.ofList
      let files ← named.mapM (entriesAlong directory)
      let repository ← if options.input.isSome then pure []
        else entriesOfRepository directory (String.ofList options.path)
      return files.flatten ++ repository
  | .refs path => entriesOfRepository directory (String.ofList path)
  | _ => return []

partial def readAll (stream : IO.FS.Stream) (before : ByteArray) : IO ByteArray := do
  let bytes ← stream.read 65536
  if bytes.isEmpty then return before else readAll stream (before ++ bytes)

def inputFor : Request → IO Bytes
  | .layout options =>
      if options.input = some ['-'] then do
        return (← readAll (← IO.getStdin) .empty).data.toList
      else return []
  | _ => return []

def environmentFor (request : Request) : IO Environment := do
  let directory := (← IO.currentDir).toString
  return {
    files := .ofEntries ((directory.toList ++ ['/'], []) :: (← entriesFor directory request))
    directory := Path.resolve [] (Text.utf8 directory.toList)
    input := ← inputFor request
    columns := (← IO.getEnv "COLUMNS").map String.toList }

end CommitLanes.Command

open CommitLanes in
def main (words : List String) : IO UInt32 := do
  let request := Command.Request.ofWords (words.map String.toList)
  let response := Command.answer (← Command.environmentFor request) request
  IO.print (String.ofList response.output)
  IO.eprint (String.ofList response.errors)
  return response.status.toUInt32
