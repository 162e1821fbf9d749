import Remedy.Command.Program

/-!
The program as it is started. Files are read into a tree before the command and those that the
command changed are written after it; in between nothing is read or written. Here there is neither
a network nor version control: requests fail, and the change set is empty.
-/

namespace Remedy

/-- The spellings of the paths that a command line names, apart from those that it asks the program
to look for. -/
def namedSpellings : Command.Invocation → List String
  | .fix options => ofCommon options.common options.paths
  | .scan options => ofCommon options.common options.paths
  | _ => []
where
  /-- The spellings in shared options, and those of paths below their root. -/
  ofCommon (options : Command.CommonOptions) (paths : List String) : List String :=
    options.config.toList ++ options.output.toList ++ options.root ::
      paths.map (Path.join options.root)

/-- The places to look at for a command: the working directory and what is above it, the settings
files that may be found there, and what the command line names. -/
def placesToSee (directory : Path) (invocation : Command.Invocation) : List Path :=
  let named := (namedSpellings invocation).map (Path.denoted directory)
  let above := (directory :: named).flatMap Path.upward
  let settings := above.flatMap fun place => SettingsFile.names.map fun name => place ++ [name]
  (above.reverse ++ settings).eraseDups

def rootsToSee (directory : Path) : Command.Invocation → List Path
  | .scan options => [Path.denoted directory options.common.root]
  | _ => []

/-- Puts what stands at a place into a tree. What cannot be read counts as missing. -/
def see (place : Path) (tree : FileTree) : IO FileTree := do
  let spot := (← IO.currentDir) / Path.spell place
  if ← spot.isDir then return tree.put place .directory
  try
    let bytes ← IO.FS.readBinFile spot
    return tree.put place (.file bytes.toList FileTree.newFileMode)
  catch _ => return tree

def seeBelow : Nat → Path → FileTree → IO FileTree
  | 0, _, tree => return tree
  | depth + 1, place, tree => do
    let spot := (← IO.currentDir) / Path.spell place
    unless ← spot.isDir do return tree
    let mut tree := tree
    for entry in ← spot.readDir do
      let next := place ++ [entry.fileName]
      tree ← see next tree
      if SourceWalk.enters entry.fileName then tree ← seeBelow depth next tree
    return tree

def maxDepth : Nat := 100

def treeFor (directory : Path) (invocation : Command.Invocation) : IO FileTree := do
  let mut tree := FileTree.empty
  for place in placesToSee directory invocation do
    tree ← see place tree
  for root in rootsToSee directory invocation do
    tree ← seeBelow maxDepth root tree
  return tree

/-- Writes the files of a tree whose bytes are not those that another tree holds. -/
def store (before after : FileTree) : IO Unit := do
  for (place, bytes) in after.filesBelow [] do
    unless before.bytes? place = some bytes do
      IO.FS.writeBinFile ((← IO.currentDir) / Path.spell place) ⟨bytes.toArray⟩

def readEnvironment : IO Environment := do
  let mut environment : Environment := []
  for name in Variable.all.map Variable.name ++ [Command.debugVariable] do
    if let some text ← IO.getEnv name then environment := environment ++ [(name, text)]
  return environment

def noNetwork : Transport Unit := fun _ state =>
  (.failure "ConnectError" "no network", state)

def runHere (line : List String) : IO UInt32 := do
  let directory := Path.denoted [] (← IO.currentDir).toString
  let around : Surroundings := ⟨directory, "new", fun _ => none, .notInstalled⟩
  let output ← IO.getStdout
  let complaints ← IO.getStderr
  let session : Command.Session Unit :=
    ⟨around, ← readEnvironment, ← output.isTty, noNetwork⟩
  let tree ←
    match Command.Invocation.ofLine line with
    | .ok invocation => treeFor directory invocation
    | .error _ => pure FileTree.empty
  let ending := Command.execute line session ⟨tree, ()⟩
  store tree ending.world.tree
  for record in ending.journal.records do
    complaints.putStrLn record.message
  output.putStr ending.output
  complaints.putStr ending.complaint
  match ending.exit with
  | .status status => return status.code.toUInt32
  | .fault fault =>
    complaints.putStrLn (fault.kind ++ ": " ++ fault.message)
    return ExitStatus.fatal.code.toUInt32

end Remedy

def main (line : List String) : IO UInt32 :=
  Remedy.runHere line
