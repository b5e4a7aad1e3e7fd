/-!
# Lexical patterns

A pattern describes a set of character sequences. `Pattern.Matches` is that set; `Pattern.split?`
finds the sequence at the head of a text that the pattern prefers: earlier choices before later
ones, and as many repetitions as the text allows.
-/

namespace FilterQuery

/-- A description of character sequences. -/
inductive Pattern where
  | empty
  | char (allowed : Char → Bool)
  | seq (first second : Pattern)
  | choice (first second : Pattern)
  | many (inner : Pattern)

namespace Pattern

/-- The sequences that a pattern describes. -/
inductive Matches : Pattern → List Char → Prop where
  | empty : Matches .empty []
  | char {allowed : Char → Bool} {c : Char} : allowed c = true → Matches (.char allowed) [c]
  | seq {first second : Pattern} {left right : List Char} :
      Matches first left → Matches second right → Matches (.seq first second) (left ++ right)
  | left {first second : Pattern} {text : List Char} :
      Matches first text → Matches (.choice first second) text
  | right {first second : Pattern} {text : List Char} :
      Matches second text → Matches (.choice first second) text
  | done {inner : Pattern} : Matches (.many inner) []
  | more {inner : Pattern} {head tail : List Char} :
      Matches inner head → Matches (.many inner) tail → Matches (.many inner) (head ++ tail)

/-- Splits off pieces as long as `piece?` finds a non-empty one, at most `limit` of them. -/
def splitRepeated (piece? : List Char → Option (List Char × List Char)) :
    (limit : Nat) → List Char → List Char × List Char
  | 0, text => ([], text)
  | limit + 1, text =>
    match piece? text with
    | some (c :: head, rest) =>
      let (tail, last) := splitRepeated piece? limit rest
      (c :: head ++ tail, last)
    | _ => ([], text)

/-- The head of a text that the pattern takes, and the text after it. A repetition can take no more
pieces than there are characters. -/
def split? : Pattern → List Char → Option (List Char × List Char)
  | .empty, text => some ([], text)
  | .char _, [] => none
  | .char allowed, c :: rest => if allowed c then some ([c], rest) else none
  | .seq first second, text =>
    match first.split? text with
    | none => none
    | some (left, middle) =>
      match second.split? middle with
      | none => none
      | some (right, rest) => some (left ++ right, rest)
  | .choice first second, text =>
    match first.split? text with
    | some found => some found
    | none => second.split? text
  | .many inner, text => some (splitRepeated inner.split? text.length text)

/-- The one character `c`. -/
def is (c : Char) : Pattern := .char (· == c)

/-- One of the characters of a text. -/
def oneOf (characters : String) : Pattern := .char fun c => characters.toList.contains c

/-- The text itself. -/
def word (text : String) : Pattern := text.toList.foldr (fun c rest => .seq (is c) rest) .empty

/-- The pattern or nothing, preferring the pattern. -/
def optionally (inner : Pattern) : Pattern := .choice inner .empty

/-- One or more repetitions. -/
def several (inner : Pattern) : Pattern := .seq inner (.many inner)

/-- All the patterns of a list, one after the other. -/
def all (parts : List Pattern) : Pattern := parts.foldr .seq .empty

/-- An ASCII digit. -/
def digit : Pattern := .char Char.isDigit

/-- Exactly `count` ASCII digits. -/
def digits (count : Nat) : Pattern := all (List.replicate count digit)

/-- One or more ASCII digits. -/
def number : Pattern := several digit

end Pattern

end FilterQuery
