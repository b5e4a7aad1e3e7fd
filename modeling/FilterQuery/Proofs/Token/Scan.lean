import FilterQuery.Proofs.Token.Pattern
import FilterQuery.Token.Scan

/-!
# Reading a text inside a longer one

Some characters, such as a closing parenthesis, end the token before them. So a text without stray
characters is read in the same way when such a character and any other text follow it, and the
reading goes on from that character. Where a text starts only moves the positions of its tokens.
-/

namespace FilterQuery

open Pattern

namespace LexicalClass

/-- What a string may hold between its quotation marks, piece by piece. -/
def stringPiece : Pattern :=
  choice (char fun c => c != '"' && c != '\\') (seq (is '\\') (char fun c => c != '\n'))

theorem stringPiece_plain {c : Char} (noMark : c ≠ '"') (noEscape : c ≠ '\\') (rest : List Char) :
    stringPiece.split? (c :: rest) = some ([c], rest) := by
  simp [stringPiece, split?, noMark, noEscape]

theorem stringPiece_escape (c : Char) (rest : List Char) :
    stringPiece.split? ('\\' :: c :: rest) =
      if c = '\n' then none else some (['\\', c], rest) := by
  by_cases lineFeed : c = '\n'
  · subst lineFeed
    rfl
  · simp [stringPiece, split?, is, lineFeed]

/-- A piece of a string is the same piece when more text follows. -/
theorem stringPiece_split?_extend {text : List Char} {found : List Char × List Char}
    (piece : stringPiece.split? text = some found) (more : List Char) :
    stringPiece.split? (text ++ more) = some (extendRest more found) := by
  match text with
  | [] => cases piece
  | c :: rest =>
    by_cases mark : c = '"'
    · subst mark
      cases piece
    · by_cases escape : c = '\\'
      · subst escape
        match rest with
        | [] => cases piece
        | escaped :: rest =>
          rw [stringPiece_escape] at piece
          rw [List.cons_append, List.cons_append, stringPiece_escape]
          split at piece
          · cases piece
          · next other =>
            obtain rfl : (['\\', escaped], rest) = found := by simpa using piece
            rw [if_neg other]
            rfl
      · rw [stringPiece_plain mark escape] at piece
        obtain rfl : ([c], rest) = found := by simpa using piece
        rw [List.cons_append, stringPiece_plain mark escape]
        rfl

/-- The pieces before a quotation mark are the same when more text follows. -/
theorem splitRepeated_stringPiece_extend {limit : Nat} {text head rest : List Char}
    (found : splitRepeated stringPiece.split? limit text = (head, '"' :: rest))
    (more : List Char) :
    splitRepeated stringPiece.split? limit (text ++ more) = (head, '"' :: rest ++ more) := by
  induction limit generalizing text head with
  | zero =>
    obtain ⟨rfl, rfl⟩ : [] = head ∧ text = '"' :: rest := by simpa [splitRepeated] using found
    rfl
  | succ limit inductionHypothesis =>
    obtain ⟨c, piece, middle, taken⟩ | missing := piece_or_no_piece stringPiece.split? text
    · rw [splitRepeated_of_piece taken] at found
      obtain ⟨rfl, after⟩ := Prod.mk.inj found
      have longer := stringPiece_split?_extend taken more
      rw [splitRepeated_of_piece longer, inductionHypothesis (Prod.ext rfl after)]
    · rw [splitRepeated_of_no_piece missing] at found
      obtain ⟨rfl, rfl⟩ := Prod.mk.inj found
      rw [List.cons_append, splitRepeated_of_no_piece]
      · intro c piece middle taken
        cases taken

/-- A string is a quotation mark, pieces up to the next quotation mark, and that mark. -/
theorem stringPattern_split?_iff {text lexeme rest : List Char} :
    stringPattern.split? text = some (lexeme, rest) ↔
      ∃ inside content, text = '"' :: inside ∧
        splitRepeated stringPiece.split? inside.length inside = (content, '"' :: rest) ∧
        lexeme = '"' :: content ++ ['"'] := by
  have shape : stringPattern = seq (is '"') (seq (many stringPiece) (seq (is '"') .empty)) := rfl
  constructor
  · intro found
    rw [shape] at found
    cases text with
    | nil => cases found
    | cons first inside =>
      by_cases mark : first = '"'
      · subst mark
        rcases pieces : splitRepeated stringPiece.split? inside.length inside with ⟨content, last⟩
        cases last with
        | nil => simp [split?, is, pieces] at found
        | cons next rest' =>
          by_cases closing : next = '"'
          · subst closing
            obtain ⟨rfl, rfl⟩ : '"' :: (content ++ ['"']) = lexeme ∧ rest' = rest := by
              simpa [split?, is, pieces] using found
            exact ⟨inside, content, rfl, pieces, rfl⟩
          · simp [split?, is, pieces, closing] at found
      · simp [split?, is, mark] at found
  · rintro ⟨inside, content, rfl, pieces, rfl⟩
    simp [shape, split?, is, pieces]

/-- A string is the same token when more text follows. -/
theorem stringPattern_split?_extend {text : List Char} {lexeme rest : List Char}
    (found : stringPattern.split? text = some (lexeme, rest)) (more : List Char) :
    stringPattern.split? (text ++ more) = some (lexeme, rest ++ more) := by
  obtain ⟨inside, content, rfl, pieces, rfl⟩ := stringPattern_split?_iff.mp found
  refine stringPattern_split?_iff.mpr ⟨inside ++ more, content, rfl, ?_, rfl⟩
  have enough : inside.length ≤ (inside ++ more).length := by simp
  rw [← splitRepeated_of_length_le split?_append enough] at pieces
  exact splitRepeated_stringPiece_extend pieces more

/-- Whether no token of a class with at least one character goes on at the character `c`. -/
def endsAt (c : Char) (lexicalClass : LexicalClass) : Bool :=
  match lexicalClass.pattern with
  | .char _ => true
  | pattern => pattern.rejects c

theorem split?_extend_of_endsAt {lexicalClass : LexicalClass} {c : Char}
    (ends : lexicalClass.endsAt c = true) (first : Char) (rest more : List Char) :
    lexicalClass.pattern.split? (first :: rest ++ c :: more) =
      (lexicalClass.pattern.split? (first :: rest)).map (extendRest (c :: more)) := by
  rw [endsAt] at ends
  split at ends
  · next allowed single =>
    simp only [single, List.cons_append, split?]
    by_cases permitted : allowed first = true
    · simp [permitted, extendRest]
    · simp [permitted]
  · exact split?_extend ends more (first :: rest)

/-- A delimiter ends a word as the end of the text does. -/
theorem endsWord_append {c : Char} (delimiter : isDelimiter c = true) (text more : List Char) :
    endsWord (text ++ c :: more) = endsWord text := by
  cases text with
  | nil => exact delimiter
  | cons first rest => rfl

/-- A class has the same token at the head of a text when a delimiter that ends its tokens
follows. -/
theorem lexeme?_append {lexicalClass : LexicalClass} {c : Char} (delimiter : isDelimiter c = true)
    (ends : lexicalClass.endsAt c = true) (first : Char) (rest more : List Char) :
    lexicalClass.lexeme? (first :: rest ++ c :: more) = lexicalClass.lexeme? (first :: rest) := by
  unfold lexeme?
  rw [split?_extend_of_endsAt ends]
  rcases lexicalClass.pattern.split? (first :: rest) with _ | ⟨lexeme, last⟩
  · rfl
  · simp only [Option.map_some, extendRest, endsWord_append delimiter]

end LexicalClass

/-- Whether every token that may stand before the character `c`, strings apart, ends there. -/
def endsTokens (c : Char) : Bool :=
  isDelimiter c && !c.isDigit &&
    LexicalClass.table.all fun lexicalClass =>
      lexicalClass.kind == .string || lexicalClass.endsAt c

theorem endsTokens_iff {c : Char} :
    endsTokens c = true ↔ (isDelimiter c = true ∧ c.isDigit = false) ∧
      ∀ lexicalClass ∈ LexicalClass.table,
        lexicalClass.kind = .string ∨ lexicalClass.endsAt c = true := by
  simp only [endsTokens, Bool.and_eq_true, Bool.not_eq_true', List.all_eq_true, Bool.or_eq_true,
    beq_iff_eq]

theorem endsTokens_rightParen : endsTokens ')' = true := by decide

/-- Only a string starts with a quotation mark. -/
theorem lexeme?_quotationMark (rest : List Char) :
    ∀ lexicalClass ∈ LexicalClass.table, lexicalClass.kind ≠ .string →
      lexicalClass.lexeme? ('"' :: rest) = none := by
  simp only [LexicalClass.table, List.forall_mem_cons]
  refine ⟨fun _ => rfl, fun _ => rfl, fun _ => rfl, fun _ => rfl, fun other => absurd rfl other,
    fun _ => rfl, fun _ => rfl, fun _ => rfl, fun _ => rfl, fun _ => rfl, fun _ => rfl,
    fun _ => rfl, fun _ => rfl, fun _ => rfl, fun _ => rfl, ?_⟩
  intro lexicalClass member
  cases member

/-- The string class is the only one of its kind. -/
theorem eq_string_of_kind :
    ∀ lexicalClass ∈ LexicalClass.table, lexicalClass.kind = .string →
      lexicalClass = ⟨.string, LexicalClass.stringPattern, false⟩ := by
  simp [LexicalClass.table]

theorem lexeme?_string (text : List Char) :
    LexicalClass.lexeme? ⟨.string, LexicalClass.stringPattern, false⟩ text =
      (LexicalClass.stringPattern.split? text).map Prod.fst := by
  unfold LexicalClass.lexeme?
  cases LexicalClass.stringPattern.split? text with
  | none => rfl
  | some found => rfl

theorem stringPattern_split?_of_ne {first : Char} (noMark : first ≠ '"') (rest : List Char) :
    LexicalClass.stringPattern.split? (first :: rest) = none := by
  simp [LexicalClass.stringPattern, all, split?, is, noMark]

/-- A minus sign before a character that is no digit is one before the end of the text. -/
theorem startsNegation_append {c : Char} (noDigit : c.isDigit = false) (after : Bool)
    (first : Char) (rest more : List Char) :
    startsNegation after (first :: rest ++ c :: more) = startsNegation after (first :: rest) := by
  by_cases minus : first = '-'
  · subst minus
    cases rest with
    | nil => simp [startsNegation, noDigit]
    | cons second rest => rfl
  · simp [startsNegation, minus]

/-- Where some class has a token at the head of a text, a string is found there exactly if it is
when more text follows: an unfinished string, which may find its end in that text, is no token. -/
theorem string_lexeme?_append {first : Char} {rest lexeme : List Char} {chosen : LexicalClass}
    (listed : chosen ∈ LexicalClass.table) (read : chosen.lexeme? (first :: rest) = some lexeme)
    (more : List Char) :
    LexicalClass.lexeme? ⟨.string, LexicalClass.stringPattern, false⟩ (first :: rest ++ more) =
      LexicalClass.lexeme? ⟨.string, LexicalClass.stringPattern, false⟩ (first :: rest) := by
  by_cases mark : first = '"'
  · subst mark
    by_cases chosenString : chosen.kind = .string
    · obtain rfl := eq_string_of_kind chosen listed chosenString
      rw [lexeme?_string] at read
      obtain ⟨⟨whole, last⟩, found, rfl⟩ := Option.map_eq_some_iff.mp read
      have longer := LexicalClass.stringPattern_split?_extend found more
      rw [lexeme?_string, lexeme?_string, longer, found]
      rfl
    · rw [lexeme?_quotationMark rest chosen listed chosenString] at read
      cases read
  · rw [lexeme?_string, lexeme?_string, List.cons_append,
      stringPattern_split?_of_ne mark, stringPattern_split?_of_ne mark]

/-- Where some class has a token at the head of a text, all classes have the same tokens there when
a character that ends tokens follows the text. -/
theorem lexeme?_append_of_readable {c : Char} (ends : endsTokens c = true) {first : Char}
    {rest lexeme : List Char} {chosen : LexicalClass} (listed : chosen ∈ LexicalClass.table)
    (read : chosen.lexeme? (first :: rest) = some lexeme) (more : List Char) :
    ∀ lexicalClass ∈ LexicalClass.table,
      lexicalClass.lexeme? (first :: rest ++ c :: more) = lexicalClass.lexeme? (first :: rest) := by
  intro lexicalClass member
  obtain ⟨⟨delimiter, -⟩, classes⟩ := endsTokens_iff.mp ends
  rcases classes lexicalClass member with string | endsHere
  · obtain rfl := eq_string_of_kind lexicalClass member string
    exact string_lexeme?_append listed read (c :: more)
  · exact LexicalClass.lexeme?_append delimiter endsHere first rest more

/-- The token at the head of a text is the same when a character that ends tokens follows the
text. -/
theorem nextToken?_append {c : Char} (ends : endsTokens c = true) {after : Bool} {first : Char}
    {rest : List Char} {token : TokenKind × List Char}
    (found : nextToken? after (first :: rest) = some token) (more : List Char) :
    nextToken? after (first :: rest ++ c :: more) = some token := by
  obtain ⟨⟨-, noDigit⟩, -⟩ := endsTokens_iff.mp ends
  unfold nextToken? at found ⊢
  rw [startsNegation_append noDigit]
  split at found
  · next minus => rwa [if_pos minus]
  · next notMinus =>
    obtain ⟨earlier, chosen, later, order, read, failed⟩ := List.findSome?_eq_some_iff.mp found
    obtain ⟨lexeme, chosenReads, -⟩ := Option.map_eq_some_iff.mp read
    have same := lexeme?_append_of_readable ends (by simp [order]) chosenReads more
    rw [if_neg notMinus]
    refine List.findSome?_eq_some_iff.mpr ⟨earlier, chosen, later, order, ?_, ?_⟩
    · rwa [same chosen (by simp [order])]
    · intro lexicalClass member
      rw [same lexicalClass (by simp [order, member])]
      exact failed lexicalClass member

/-- A token is no longer than the text that it is read from. -/
theorem nextToken?_length_le {after : Bool} {text lexeme : List Char} {kind : TokenKind}
    (found : nextToken? after text = some (kind, lexeme)) : lexeme.length ≤ text.length := by
  unfold nextToken? at found
  split at found
  · next minus =>
    obtain ⟨-, rfl⟩ : TokenKind.minus = kind ∧ ['-'] = lexeme := by simpa using found
    cases text with
    | nil => cases minus
    | cons first rest => simp
  · obtain ⟨lexicalClass, -, read⟩ := List.exists_of_findSome?_eq_some found
    obtain ⟨taken, takenHere, same⟩ := Option.map_eq_some_iff.mp read
    obtain rfl : taken = lexeme := congrArg Prod.snd same
    unfold LexicalClass.lexeme? at takenHere
    split at takenHere
    · next head rest whole =>
      split at takenHere
      · cases takenHere
      · obtain rfl : head = taken := by simpa using takenHere
        have lengths := congrArg List.length (split?_append whole)
        simp only [List.length_append] at lengths
        omega
    · cases takenHere

namespace Scan

/-- The readings of a text and of the text behind it, one after the other. -/
def append (first second : Scan) : Scan :=
  ⟨first.tokens ++ second.tokens, first.strays ++ second.strays⟩

theorem append_assoc (first second third : Scan) :
    (first.append second).append third = first.append (second.append third) := by
  simp [append]

theorem strays_append_eq_nil_iff {first second : Scan} :
    (first.append second).strays = [] ↔ first.strays = [] ∧ second.strays = [] :=
  List.append_eq_nil_iff

end Scan

section Reading

variable {position : Nat} {after : Bool} {c : Char} {rest : List Char}

theorem scanFrom_pending (pending : Nat) :
    scanFrom position after (pending + 1) (c :: rest) =
      scanFrom (position + c.utf8Size) after pending rest := by
  rw [scanFrom]

theorem scanFrom_separator (separator : isSeparator c = true) :
    scanFrom position after 0 (c :: rest) = scanFrom (position + c.utf8Size) after 0 rest := by
  rw [scanFrom, if_pos separator]

theorem scanFrom_token (word : isSeparator c = false) {kind : TokenKind} {lexeme : List Char}
    (found : nextToken? after (c :: rest) = some (kind, lexeme)) :
    scanFrom position after 0 (c :: rest) =
      Scan.append ⟨[⟨kind, String.ofList lexeme, position⟩], []⟩
        (scanFrom (position + c.utf8Size) (kind == .comparator) (lexeme.length - 1) rest) := by
  rw [scanFrom, if_neg (by simp [word]), found]
  rfl

theorem scanFrom_stray (word : isSeparator c = false)
    (missing : nextToken? after (c :: rest) = none) :
    scanFrom position after 0 (c :: rest) =
      Scan.append ⟨[], [⟨c, position⟩]⟩ (scanFrom (position + c.utf8Size) after 0 rest) := by
  rw [scanFrom, if_neg (by simp [word]), missing]
  rfl

end Reading

/-- A text without stray characters is read alike when other text follows it that changes none of
its tokens, and the reading goes on from that text. Only tokens of the kinds that the text has are
to be considered. -/
theorem scanFrom_append_of_stable {more : List Char} {expected : TokenKind → Prop}
    (stable : ∀ {after : Bool} {first : Char} {rest lexeme : List Char} {kind : TokenKind},
      expected kind → nextToken? after (first :: rest) = some (kind, lexeme) →
        nextToken? after (first :: rest ++ more) = some (kind, lexeme))
    {position pending : Nat} {after : Bool} {text : List Char} (enough : pending ≤ text.length)
    (clean : (scanFrom position after pending text).strays = [])
    (kinds : ∀ token ∈ (scanFrom position after pending text).tokens, expected token.kind) :
    ∃ afterText, scanFrom position after pending (text ++ more) =
      (scanFrom position after pending text).append
        (scanFrom (position + Text.utf8Length text) afterText 0 more) := by
  induction text generalizing position pending after with
  | nil =>
    obtain rfl : pending = 0 := by simpa using enough
    exact ⟨after, rfl⟩
  | cons first rest inductionHypothesis =>
    have moved : position + Text.utf8Length (first :: rest) =
        position + first.utf8Size + Text.utf8Length rest := by
      simp [Text.utf8Length, Nat.add_assoc]
    rw [moved, List.cons_append]
    rw [List.length_cons] at enough
    match pending with
    | pending + 1 =>
      rw [scanFrom_pending] at clean kinds ⊢
      rw [scanFrom_pending]
      exact inductionHypothesis (by omega) clean kinds
    | 0 =>
      by_cases separator : isSeparator first = true
      · rw [scanFrom_separator separator] at clean kinds ⊢
        rw [scanFrom_separator separator]
        exact inductionHypothesis (by omega) clean kinds
      · have word : isSeparator first = false := by simpa using separator
        cases found : nextToken? after (first :: rest) with
        | none =>
          -- A stray character, which the text does not have.
          rw [scanFrom_stray word found, Scan.strays_append_eq_nil_iff] at clean
          cases clean.1
        | some token =>
          obtain ⟨kind, lexeme⟩ := token
          have short := nextToken?_length_le found
          rw [List.length_cons] at short
          rw [scanFrom_token word found, Scan.strays_append_eq_nil_iff] at clean
          rw [scanFrom_token word found] at kinds ⊢
          obtain ⟨isExpected, others⟩ := List.forall_mem_append.mp kinds
          have longer := stable (isExpected _ List.mem_cons_self) found
          obtain ⟨afterText, goesOn⟩ := inductionHypothesis (by omega) clean.2 others
          refine ⟨afterText, ?_⟩
          rw [Scan.append_assoc, ← goesOn]
          exact scanFrom_token word longer

/-- A text without stray characters is read alike when a character that ends tokens follows it, and
the reading goes on from that character. -/
theorem scanFrom_append {c : Char} (ends : endsTokens c = true) (more : List Char)
    {position pending : Nat} {after : Bool} {text : List Char} (enough : pending ≤ text.length)
    (clean : (scanFrom position after pending text).strays = []) :
    ∃ afterText, scanFrom position after pending (text ++ c :: more) =
      (scanFrom position after pending text).append
        (scanFrom (position + Text.utf8Length text) afterText 0 (c :: more)) :=
  @scanFrom_append_of_stable (c :: more) (fun _ => True)
    (fun _ found => nextToken?_append ends found more) _ _ _ _ enough clean fun _ _ => trivial

/-- The tokens of a text stand one behind the other, none before the start of the text. -/
theorem scanFrom_positions (position : Nat) (after : Bool) (pending : Nat) (text : List Char) :
    (∀ token ∈ (scanFrom position after pending text).tokens, position ≤ token.position) ∧
      (scanFrom position after pending text).tokens.Pairwise
        fun first second => first.position < second.position := by
  induction text generalizing position after pending with
  | nil => simp [scanFrom]
  | cons first rest inductionHypothesis =>
    have size := first.utf8Size_pos
    -- What is read behind the first character starts further on.
    have behind (after : Bool) (pending : Nat) :
        (∀ token ∈ (scanFrom (position + first.utf8Size) after pending rest).tokens,
          position < token.position) := by
      intro token member
      have start := (inductionHypothesis (position + first.utf8Size) after pending).1 token member
      omega
    match pending with
    | pending + 1 =>
      rw [scanFrom_pending]
      exact ⟨fun token member => Nat.le_of_lt (behind after pending token member),
        (inductionHypothesis _ _ _).2⟩
    | 0 =>
      by_cases separator : isSeparator first = true
      · rw [scanFrom_separator separator]
        exact ⟨fun token member => Nat.le_of_lt (behind after 0 token member),
          (inductionHypothesis _ _ _).2⟩
      · have word : isSeparator first = false := by simpa using separator
        cases found : nextToken? after (first :: rest) with
        | none =>
          rw [scanFrom_stray word found]
          exact ⟨fun token member => Nat.le_of_lt (behind after 0 token member),
            (inductionHypothesis _ _ _).2⟩
        | some token =>
          obtain ⟨kind, lexeme⟩ := token
          rw [scanFrom_token word found]
          constructor
          · intro token member
            rcases List.mem_cons.mp member with rfl | later
            · exact Nat.le_refl position
            · exact Nat.le_of_lt (behind _ _ token later)
          · exact .cons (behind _ _) (inductionHypothesis _ _ _).2

/-- Every token of a text was read at the head of a part of it. -/
theorem exists_nextToken?_of_mem {position : Nat} {after : Bool} {pending : Nat}
    {text : List Char} {token : Token}
    (member : token ∈ (scanFrom position after pending text).tokens) :
    ∃ afterComparator rest, rest <:+ text ∧
      nextToken? afterComparator rest = some (token.kind, token.text.toList) := by
  induction text generalizing position after pending with
  | nil => cases member
  | cons first rest inductionHypothesis =>
    -- A token that is read further on is read at the head of a shorter part.
    have behind {position : Nat} {after : Bool} {pending : Nat}
        (later : token ∈ (scanFrom position after pending rest).tokens) :
        ∃ afterComparator part, part <:+ first :: rest ∧
          nextToken? afterComparator part = some (token.kind, token.text.toList) := by
      obtain ⟨afterComparator, part, suffix, read⟩ := inductionHypothesis later
      exact ⟨afterComparator, part, suffix.trans (List.suffix_cons first rest), read⟩
    match pending with
    | pending + 1 =>
      rw [scanFrom_pending] at member
      exact behind member
    | 0 =>
      by_cases separator : isSeparator first = true
      · rw [scanFrom_separator separator] at member
        exact behind member
      · have word : isSeparator first = false := by simpa using separator
        cases found : nextToken? after (first :: rest) with
        | none =>
          rw [scanFrom_stray word found] at member
          exact behind member
        | some read =>
          obtain ⟨kind, lexeme⟩ := read
          rw [scanFrom_token word found] at member
          rcases List.mem_cons.mp member with rfl | later
          · exact ⟨after, first :: rest, List.suffix_refl _, by simp [found]⟩
          · exact behind later

/-- The class of comparators is the only one of its kind. -/
theorem eq_comparator_of_kind :
    ∀ lexicalClass ∈ LexicalClass.table, lexicalClass.kind = .comparator →
      lexicalClass = ⟨.comparator, LexicalClass.comparatorPattern, false⟩ := by
  simp [LexicalClass.table]

/-- A comparator is one of the comparison signs. -/
theorem comparatorPattern_split? {text lexeme rest : List Char}
    (found : LexicalClass.comparatorPattern.split? text = some (lexeme, rest)) :
    String.ofList lexeme ∈ ["<=", ">=", "!=", "<", ">", "=", ":"] := by
  have sign {wanted : String} (taken : (word wanted).split? text = some (lexeme, rest)) :
      String.ofList lexeme = wanted := by
    rw [split?_word taken, String.ofList_toList]
  unfold LexicalClass.comparatorPattern at found
  repeat
    rcases split?_choice found with taken | found
    · simp [sign taken]
  simp [sign found]

theorem nextToken?_comparator {after : Bool} {text lexeme : List Char}
    (found : nextToken? after text = some (.comparator, lexeme)) :
    String.ofList lexeme ∈ ["<=", ">=", "!=", "<", ">", "=", ":"] := by
  unfold nextToken? at found
  split at found
  · simp at found
  · obtain ⟨lexicalClass, listed, read⟩ := List.exists_of_findSome?_eq_some found
    obtain ⟨taken, takenHere, same⟩ := Option.map_eq_some_iff.mp read
    obtain ⟨isComparator, rfl⟩ := Prod.mk.inj same
    obtain rfl := eq_comparator_of_kind lexicalClass listed isComparator
    unfold LexicalClass.lexeme? at takenHere
    split at takenHere
    · next head rest whole =>
      obtain rfl : head = taken := by simpa using takenHere
      exact comparatorPattern_split? whole
    · cases takenHere

/-- A token that stands elsewhere. -/
def Token.mapPosition (move : Nat → Nat) (token : Token) : Token :=
  { token with position := move token.position }

/-- A reading whose tokens and stray characters stand elsewhere. -/
def Scan.mapPosition (move : Nat → Nat) (scan : Scan) : Scan :=
  ⟨scan.tokens.map (Token.mapPosition move),
    scan.strays.map fun stray => { stray with position := move stray.position }⟩

theorem Scan.mapPosition_append (move : Nat → Nat) (first second : Scan) :
    (first.append second).mapPosition move =
      (first.mapPosition move).append (second.mapPosition move) := by
  simp [append, mapPosition]

/-- A text that starts further on is read alike, with all positions further on. -/
theorem scanFrom_add (position distance : Nat) (after : Bool) (pending : Nat) (text : List Char) :
    scanFrom (position + distance) after pending text =
      (scanFrom position after pending text).mapPosition (· + distance) := by
  induction text generalizing position after pending with
  | nil => rfl
  | cons first rest inductionHypothesis =>
    have swap : position + distance + first.utf8Size = position + first.utf8Size + distance := by
      omega
    match pending with
    | pending + 1 => rw [scanFrom_pending, scanFrom_pending, swap, inductionHypothesis]
    | 0 =>
      by_cases separator : isSeparator first = true
      · rw [scanFrom_separator separator, scanFrom_separator separator, swap, inductionHypothesis]
      · have word : isSeparator first = false := by simpa using separator
        cases found : nextToken? after (first :: rest) with
        | none =>
          rw [scanFrom_stray word found, scanFrom_stray word found, swap, inductionHypothesis,
            Scan.mapPosition_append]
          rfl
        | some token =>
          obtain ⟨kind, lexeme⟩ := token
          rw [scanFrom_token word found, scanFrom_token word found, swap, inductionHypothesis,
            Scan.mapPosition_append]
          rfl

end FilterQuery
