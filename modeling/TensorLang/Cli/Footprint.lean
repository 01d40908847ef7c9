import TensorLang.Cli.Settings

/-!
# The footprint of a run

The part of a file tree that a run can touch, as paths from the root. Whoever runs the program has
to know the tree at these paths, above them and below them. A first part of the footprint follows
from the command line; the rest follows from the manifest, once it is known.
-/

namespace TensorLang.Cli

/-- What is behind the first equals sign of an argument. -/
def behindEquals (arg : Bytes) : Bytes := (arg.dropWhile (· != Flag.equals)).drop 1

/-- The paths that a command line can mean: arguments and values of flags. -/
def mentionedPaths (cwd : Bytes) (args : List Bytes) : List Bytes :=
  ((args ++ args.map behindEquals).filter fun a => !a.isEmpty).map (Path.abs cwd)

/-- Can the content of a file be asked for that the command line does not mention? That holds for
sources, manifests and cached results. -/
def isReadable (name : Bytes) : Bool :=
  Bytes.endsWith name sourceEnding || Bytes.endsWith name Storage.ResultCache.ending ||
    name == Manifest.fileName

/-- The footprint as far as the command line tells. -/
def firstFootprint (s : Surroundings) (cwd : Bytes) (args : List Bytes) : List Bytes :=
  Manifest.candidates cwd cwd ++ mentionedPaths cwd args ++ s.cacheDir.toOption.toList

/-- Is a whole project built? -/
def buildsProject (args : List Bytes) : Bool :=
  match resolve args with
  | .ok (c, _) => c.task == .build
  | .error _ => false

/-- The rest of the footprint: the directories of manifests and those for outputs. -/
def laterFootprint (tree : Storage.Tree) (args : List Bytes) : List Bytes :=
  let cwd := tree.workingDir
  let manifests := (Manifest.candidates cwd cwd ++ mentionedPaths cwd args).filterMap fun path =>
    (Manifest.load tree path).toOption
  let standard := Path.abs cwd ({} : Config).outDir
  if buildsProject args then
    cwd :: standard :: manifests.flatMap fun m => [m.root, m.outDir]
  else []

end TensorLang.Cli
