import FilterQuery.Command.Run

/-!
# The program

Reads the environment and the configuration file, runs the command, and prints what it returns or
why it failed. Of the formats of configuration files, it has a reader for JSON only.
-/

namespace FilterQuery

/-- The variables of the environment that the program knows. -/
def knownVariables : List String :=
  ["AIPFILTER_BACKEND", "AIPFILTER_COLUMN", "AIPFILTER_CONFIG"]

/-- The variables that are set. -/
def readVariables : IO (List (String × String)) := do
  let mut found := []
  for name in knownVariables do
    if let some value ← IO.getEnv name then
      found := found ++ [(name, value)]
  return found

/-- Surroundings with some variables and files. -/
def programSurroundings (environment files : List (String × String)) : Command.Surroundings where
  lookupVariable := (environment.lookup ·)
  readFile := (files.lookup ·)
  decode _ _ := none
  complaint format _ := "cannot read this as " ++ format

/-- The configuration file that a run asks for, if it can be read. -/
def readConfigFile (environment : List (String × String)) (words : List String) :
    IO (List (String × String)) := do
  match Command.readRequest words with
  | .ok (.compile values _) =>
    match Command.configPath? (programSurroundings environment []) values with
    | some path =>
      try
        return [(path, ← IO.FS.readFile path)]
      catch _ => return []
    | none => return []
  | _ => return []

end FilterQuery

/-- Runs the program. -/
def main (words : List String) : IO UInt32 := do
  let environment ← FilterQuery.readVariables
  let files ← FilterQuery.readConfigFile environment words
  match FilterQuery.Command.run (FilterQuery.programSurroundings environment files) words with
  | .ok text =>
    (← IO.getStdout).putStr text
    return 0
  | .error error =>
    (← IO.getStderr).putStrLn ("Error: " ++ error.message)
    return 1
