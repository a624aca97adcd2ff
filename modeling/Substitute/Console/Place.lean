import Substitute.Text.Basic

/-!
# Places of files

Directories as slash-separated paths. Empty components and single dots vanish, double dots stay, and exactly two leading slashes are kept apart from one.
-/

namespace Substitute

def normalizePath (t : Text) : Text :=
  let slashes := (t.takeWhile (· == '/')).length
  let root : Text := if slashes = 0 then [] else if slashes = 2 then "//" else "/"
  let parts := (Text.cutAt '/' t).filter fun part => !part.isEmpty && part != ['.']
  let path := root ++ List.intercalate ['/'] parts
  if path.isEmpty then ['.'] else path

def pathBelow (directory name : Text) : Text :=
  normalizePath (if directory = ['.'] then name else directory ++ '/' :: name)

structure Places where
  configDir : Text
  cacheDir : Text

namespace Places

def ofDirs (configDir cacheDir : Text) : Places :=
  { configDir := normalizePath configDir, cacheDir := normalizePath cacheDir }

def configFile (p : Places) : Text :=
  pathBelow p.configDir "config.yaml"

def logDir (p : Places) : Text :=
  pathBelow p.cacheDir "logs"

def consoleHistory (p : Places) : Text :=
  pathBelow p.cacheDir "console_history"

def shown (p : Places) : Text :=
  "SubtogglePaths(\n  config_dir=" ++ p.configDir ++ "\n  cache_dir=" ++ p.cacheDir ++ "\n)"

end Places

end Substitute
