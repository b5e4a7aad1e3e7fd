import FilterQuery.Command.Columns
import FilterQuery.Text.Quoted

/-!
# Command-line arguments

The words after the program name choose a command and set its flags. Flags may stand before and
after the command, and a word of two hyphens ends them.
-/

namespace FilterQuery.Command

/-- The flags. -/
inductive Flag where
  | config
  | verbose
  | help
  | backend
  | column
deriving DecidableEq, Repr

namespace Flag

/-- The name of a flag. -/
def name : Flag → String
  | .config => "config"
  | .verbose => "verbose"
  | .help => "help"
  | .backend => "backend"
  | .column => "column"

/-- The letter of a flag. -/
def letter? : Flag → Option Char
  | .verbose => some 'v'
  | .help => some 'h'
  | _ => none

/-- Whether a flag may stand without a value. All flags with a letter may. -/
def isSwitch : Flag → Bool
  | .verbose | .help => true
  | _ => false

/-- A flag as messages show it. -/
def shown (flag : Flag) : String :=
  match flag.letter? with
  | some letter => "-" ++ String.ofList [letter] ++ ", --" ++ flag.name
  | none => "--" ++ flag.name

end Flag

/-- What the flags have been set to. -/
structure FlagValues where
  config : Option String := none
  backend : Option String := none
  columns : Option Columns := none
  verbose : Bool := false
  help : Bool := false
deriving DecidableEq, Repr

/-- Why the arguments make no command. -/
inductive ArgumentError where
  | badFlag (word : String)
  | unknownFlag (name : String)
  | unknownLetter (byte : UInt8) (cluster : String)
  | missingValue (word : String)
  | invalidValue (flag : Flag) (value reason : String)
  | unknownCommand (name : String) (suggestions : List String)
  | wrongCount (count : Nat)
deriving DecidableEq, Repr

/-- The name of the program. -/
def programName : String := "aipfilter"

/-- The wording of an error. -/
def ArgumentError.message : ArgumentError → String
  | .badFlag word => "bad flag syntax: " ++ word
  | .unknownFlag name => "unknown flag: --" ++ name
  | .unknownLetter byte cluster =>
    "unknown shorthand flag: " ++ Text.quoteChar (Char.ofNat byte.toNat) ++ " in -" ++ cluster
  | .missingValue word => "flag needs an argument: " ++ word
  | .invalidValue flag value reason =>
    "invalid argument " ++ Text.quote value ++ " for " ++ Text.quote flag.shown ++ " flag: " ++
      reason
  | .unknownCommand name suggestions =>
    "unknown command " ++ Text.quote name ++ " for " ++ Text.quote programName ++
      if suggestions.isEmpty then ""
      else "\n\nDid you mean this?\n" ++ String.join (suggestions.map fun s => "\t" ++ s ++ "\n")
  | .wrongCount count => "accepts 1 arg(s), received " ++ toString count

/-- The truth value that a text spells. -/
def readSwitch (text : String) : Except String Bool :=
  if ["1", "t", "T", "TRUE", "true", "True"].contains text then .ok true
  else if ["0", "f", "F", "FALSE", "false", "False"].contains text then .ok false
  else .error ("strconv.ParseBool: parsing " ++ Text.quote text ++ ": invalid syntax")

/-- Sets a flag. -/
def FlagValues.set (values : FlagValues) (flag : Flag) (value : String) :
    Except ArgumentError FlagValues :=
  match flag with
  | .config => .ok { values with config := some value }
  | .backend => .ok { values with backend := some value }
  | .column =>
    match Columns.ofFlag value with
    | .ok columns => .ok { values with columns := some ((values.columns.getD []).merge columns) }
    | .error fault => .error (.invalidValue flag value fault.message)
  | .verbose =>
    match readSwitch value with
    | .ok b => .ok { values with verbose := b }
    | .error reason => .error (.invalidValue flag value reason)
  | .help =>
    match readSwitch value with
    | .ok b => .ok { values with help := b }
    | .error reason => .error (.invalidValue flag value reason)

/-- Sets the flags of a word of letters after a hyphen. A value may follow the last of them after an
equals sign, and words of test runs are passed over. -/
def readLetters (known : List Flag) (values : FlagValues) :
    List Char → Except ArgumentError FlagValues
  | [] => .ok values
  | letter :: rest =>
    if "test.".toList.isPrefixOf (letter :: rest) then .ok values
    else
      match known.find? fun flag => flag.letter? = some letter with
      | none =>
        .error (.unknownLetter ((String.utf8EncodeChar letter).headD 0)
          (String.ofList (letter :: rest)))
      | some flag =>
        match rest with
        | '=' :: c :: value => values.set flag (String.ofList (c :: value))
        | _ =>
          match values.set flag "true" with
          | .ok values => readLetters known values rest
          | .error error => .error error

/-- What a word is. -/
inductive Word where
  | plain
  | dashes
  | long (text : List Char)
  | letters (text : List Char)

/-- What a word is, by the hyphens before it. -/
def Word.ofText (text : String) : Word :=
  match text.toList with
  | ['-', '-'] => .dashes
  | '-' :: '-' :: rest => .long rest
  | ['-'] => .plain
  | '-' :: rest => .letters rest
  | _ => .plain

/-- The name of a flag that is written out, and its value after an equals sign. -/
def splitFlag (text : List Char) : String × Option String :=
  let name := String.ofList (text.takeWhile (· != '='))
  match text.dropWhile (· != '=') with
  | [] => (name, none)
  | _ :: value => (name, some (String.ofList value))

/-- The known flag of a word, with its value if the word has one. -/
def readLong (known : List Flag) (word : String) (text : List Char) :
    Except ArgumentError (Flag × Option String) :=
  match text with
  | '-' :: _ | '=' :: _ => .error (.badFlag word)
  | _ =>
    let (name, value) := splitFlag text
    match known.find? fun flag => flag.name = name with
    | none => .error (.unknownFlag name)
    | some flag => .ok (flag, if value.isNone && flag.isSwitch then some "true" else value)

/-- Sets the flags of a list of words. The other words remain, in their order. -/
def readFlags (known : List Flag) (values : FlagValues) :
    List String → Except ArgumentError (FlagValues × List String)
  | [] => .ok (values, [])
  | word :: rest =>
    match Word.ofText word with
    | .plain => (readFlags known values rest).map fun (values, words) => (values, word :: words)
    | .dashes => .ok (values, rest)
    | .letters text =>
      match readLetters known values text with
      | .ok values => readFlags known values rest
      | .error error => .error error
    | .long text =>
      match readLong known word text with
      | .error error => .error error
      | .ok (flag, some value) =>
        match values.set flag value with
        | .ok values => readFlags known values rest
        | .error error => .error error
      | .ok (flag, none) =>
        match rest with
        | [] => .error (.missingValue word)
        | value :: rest =>
          match values.set flag value with
          | .ok values => readFlags known values rest
          | .error error => .error error

/-- Whether the search for the command takes the next word for the value of this one. It knows of
one flag that needs no value. -/
def takesNext (word : String) : Bool :=
  !word.toList.contains '=' &&
    match Word.ofText word with
    | .long name => String.ofList name != Flag.verbose.name
    | .letters [letter] => letter.toNat < 0x80 && some letter != Flag.verbose.letter?
    | _ => false

/-- The words that are neither flags nor their values. The search ends at a flag that would take the
last word or none. -/
def plainWords : List String → List String
  | [] => []
  | word :: rest =>
    if word = "--" then []
    else if takesNext word then
      match rest with
      | _ :: next :: others => plainWords (next :: others)
      | _ => []
    else if word ≠ "" ∧ word.toList.head? ≠ some '-' then word :: plainWords rest
    else plainWords rest

/-- The words without the first that is the name of a command. -/
def removeCommand (name : String) : List String → List String
  | [] => []
  | word :: rest =>
    if word = "--" then word :: rest
    else if takesNext word then
      match rest with
      | [] => [word]
      | value :: rest => word :: value :: removeCommand name rest
    else if word = name then rest
    else word :: removeCommand name rest

/-- The next row of the table of edit distances, given the entry to its left. -/
def nextRow (byte : UInt8) (left : Nat) : List UInt8 → List Nat → List Nat
  | other :: rest, diagonal :: above :: row =>
    let here := if byte = other then diagonal else min left (min above diagonal) + 1
    here :: nextRow byte here rest (above :: row)
  | _, _ => []

/-- The number of insertions, deletions and replacements that lead from one text to another. -/
def editDistance (first second : List UInt8) : Nat :=
  let start := List.range (second.length + 1)
  let last := first.foldl (fun row byte =>
    let left := row.headD 0 + 1
    left :: nextRow byte left second row) start
  last.getLastD 0

/-- The commands that a mistyped name may stand for. -/
def suggestions (name : String) : List String :=
  let typed := Text.lower name
  ["compile", "completion"].filter fun command =>
    editDistance (Text.utf8Bytes typed) (Text.utf8Bytes command) ≤ 2 ||
      typed.toList.isPrefixOf command.toList

/-- What the arguments ask for: a description of the program or of a command, or to compile a
filter. -/
inductive Request where
  | describeProgram
  | describeCompile
  | compile (values : FlagValues) (filter : String)
deriving DecidableEq, Repr

/-- The flags of every command. -/
def commonFlags : List Flag := [.config, .verbose, .help]

/-- The request of the words of the compile command. -/
def readCompile (words : List String) : Except ArgumentError Request :=
  match readFlags (.backend :: .column :: commonFlags) {} words with
  | .error error => .error error
  | .ok (values, filters) =>
    if values.help then .ok .describeCompile
    else
      match filters with
      | [filter] => .ok (.compile values filter)
      | _ => .error (.wrongCount filters.length)

/-- The request of words that ask for no filter. Their flags have to be right all the same. -/
def readDescribe (words : List String) : Except ArgumentError Request :=
  (readFlags commonFlags {} words).map fun _ => .describeProgram

/-- The request of a list of words. -/
def readRequest (words : List String) : Except ArgumentError Request :=
  match plainWords words with
  | [] => readDescribe words
  | "compile" :: _ => readCompile (removeCommand "compile" words)
  | "completion" :: _ => readDescribe (removeCommand "completion" words)
  | "help" :: _ => readDescribe (removeCommand "help" words)
  | name :: _ => .error (.unknownCommand name (suggestions name))

end FilterQuery.Command
