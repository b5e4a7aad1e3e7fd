import FilterQuery.Proofs.Token.Strays

/-!
# Every byte of a text is accounted for

The tokens of a text are parts of it: each stands at its position, from one character boundary to
another, and no two overlap. Every byte between them is a separator or was reported as stray. This
holds whether or not there are stray characters; `AccountsFor` says it of any list of tokens and any
positions that were reported.
-/

namespace FilterQuery

section Bytes

namespace Text

theorem length_utf8Encode (characters : List Char) :
    (characters.flatMap String.utf8EncodeChar).length = utf8Length characters := by
  induction characters with
  | nil => rfl
  | cons c rest inductionHypothesis =>
    rw [List.flatMap_cons, List.length_append, String.length_utf8EncodeChar, inductionHypothesis]
    rfl

/-- The bytes of a text behind some of its characters are those of the rest. -/
theorem drop_utf8Bytes {text : String} {front rest : List Char}
    (whole : text.toList = front ++ rest) :
    (utf8Bytes text).drop (utf8Length front) = rest.flatMap String.utf8EncodeChar := by
  rw [utf8Bytes, whole, List.flatMap_append, ← length_utf8Encode, List.drop_left]

/-- A place between two characters of a text is a character boundary. -/
theorem isValid_utf8Length {text : String} {front rest : List Char}
    (whole : text.toList = front ++ rest) :
    (⟨utf8Length front⟩ : String.Pos.Raw).IsValid text := by
  refine String.Pos.Raw.isValid_iff_exists_append.mpr
    ⟨String.ofList front, String.ofList rest, ?_, ?_⟩
  · rw [← String.ofList_append, ← whole, String.ofList_toList]
  · rw [utf8Length_ofList]
    rfl

end Text

namespace Place

variable {text : String} {place : Place}

theorem Reached.drop_utf8Bytes (reached : place.Reached text) :
    (Text.utf8Bytes text).drop place.position = place.rest.flatMap String.utf8EncodeChar := by
  obtain ⟨front, whole, position⟩ := reached.exists_front
  rw [position, Text.drop_utf8Bytes whole]

theorem Reached.isValid (reached : place.Reached text) :
    (⟨place.position⟩ : String.Pos.Raw).IsValid text := by
  obtain ⟨front, whole, position⟩ := reached.exists_front
  rw [position]
  exact Text.isValid_utf8Length whole

/-- The byte at a place where a character of one byte stands. -/
theorem Reached.getElem?_utf8Bytes (reached : place.Reached text) {c : Char} {rest : List Char}
    (stands : place.rest = c :: rest) (single : c.utf8Size = 1) :
    (Text.utf8Bytes text)[place.position]? = some c.val.toUInt8 := by
  have dropped := reached.drop_utf8Bytes
  rw [stands, List.flatMap_cons, String.utf8EncodeChar_eq_singleton single] at dropped
  rw [← List.head?_drop, dropped]
  rfl

end Place

end Bytes

/-- The bytes that separate tokens. -/
def separatorBytes : List UInt8 := Text.utf8Bytes " \t\n\r\x0c"

/-- The bytes that end a word. -/
def delimiterBytes : List UInt8 := Text.utf8Bytes " \t\r\n()=<>!:.,"

/-- A token belongs to the class of its kind: it is a minus sign, or the pattern of the class
describes it and, if the class is delimited, it is a whole word of the text. -/
def Token.Belongs (text : String) (token : Token) : Prop :=
  (token.kind = .minus ∧ token.text = "-") ∨
    ∃ lexicalClass ∈ LexicalClass.table, lexicalClass.kind = token.kind ∧
      lexicalClass.pattern.Matches token.text.toList ∧
      (lexicalClass.delimited = true → ∀ byte, (Text.utf8Bytes text)[token.stop]? = some byte →
        byte ∈ delimiterBytes)

/-- A token is a part of a text. -/
structure Token.StandsIn (text : String) (token : Token) : Prop where
  nonempty : token.text ≠ ""
  bytes : Text.utf8Bytes token.text <+: (Text.utf8Bytes text).drop token.position
  startsCharacter : (⟨token.position⟩ : String.Pos.Raw).IsValid text
  endsCharacter : (⟨token.stop⟩ : String.Pos.Raw).IsValid text
  belongs : token.Belongs text

theorem Token.StandsIn.position_lt_stop {text : String} {token : Token}
    (standsIn : token.StandsIn text) : token.position < token.stop := by
  obtain ⟨c, rest, characters⟩ := List.exists_cons_of_ne_nil
    (mt String.toList_eq_nil_iff.mp standsIn.nonempty)
  have positive : 0 < Text.utf8Length token.text.toList := by
    rw [characters]
    exact Nat.add_pos_left c.utf8Size_pos _
  exact Nat.lt_add_of_pos_right positive

/-- Tokens and reported positions account for a text: the tokens stand in it one behind the other,
and every byte outside of them is a separator or stands at a reported position. -/
structure AccountsFor (text : String) (tokens : List Token) (reported : List Nat) : Prop where
  standsIn : ∀ token ∈ tokens, token.StandsIn text
  increasing : tokens.Pairwise fun first second => first.position < second.position
  apart : tokens.Pairwise fun first second => first.stop ≤ second.position
  covered : ∀ offset byte, (Text.utf8Bytes text)[offset]? = some byte →
    byte ∈ separatorBytes ∨ offset ∈ reported ∨
      ∃ token ∈ tokens, token.position ≤ offset ∧ offset < token.stop
  outside : ∀ offset ∈ reported, ∀ token ∈ tokens, offset < token.position ∨ token.stop ≤ offset

section Accounts

variable {text : String} {place next : Place}

/-- The byte at a place where a word ends is a delimiter. -/
theorem Place.Reached.mem_delimiterBytes (reached : place.Reached text)
    (ends : endsWord place.rest = true) {byte : UInt8}
    (stands : (Text.utf8Bytes text)[place.position]? = some byte) : byte ∈ delimiterBytes := by
  have single : ∀ c ∈ " \t\r\n()=<>!:.,".toList, c.utf8Size = 1 ∧ c.val.toUInt8 ∈ delimiterBytes :=
    List.all_iff_forall_prop.mp (by decide)
  cases rest : place.rest with
  | nil =>
    have nothing := reached.drop_utf8Bytes
    rw [rest, List.flatMap_nil, List.drop_eq_nil_iff] at nothing
    rw [List.getElem?_eq_none nothing] at stands
    cases stands
  | cons c behind =>
    rw [rest] at ends
    obtain ⟨size, listed⟩ := single c (List.contains_iff_mem.mp ends)
    rw [reached.getElem?_utf8Bytes rest size] at stands
    rwa [← Option.some.inj stands]

/-- A token that is read stands in the text. -/
theorem Place.Reached.standsIn (reached : place.Reached text) {token : Token}
    (step : place.Step ⟨[token], []⟩ next) : token.StandsIn text := by
  have behind := reached.step step
  cases step with
  | @token position last kind lexeme rest found =>
    have extent := Token.stop_ofList kind lexeme position
    refine ⟨?_, ?_, reached.isValid, ?_, ?_⟩
    · intro empty
      exact nextToken?_ne_nil found (String.ofList_eq_empty_iff.mp empty)
    · rw [reached.drop_utf8Bytes, List.flatMap_append, Text.utf8Bytes, String.toList_ofList]
      exact List.prefix_append _ _
    · rw [extent]
      exact behind.isValid
    · rcases nextToken?_eq_some_iff.mp found with
        ⟨-, rfl, rfl⟩ | ⟨-, earlier, lexicalClass, later, table, kindEq, read, -⟩
      · exact .inl ⟨rfl, rfl⟩
      · obtain ⟨remainder, taken, ends⟩ := LexicalClass.lexeme?_eq_some_iff.mp read
        obtain rfl := List.append_cancel_left (Pattern.split?_append taken)
        refine .inr ⟨lexicalClass, by simp [table], kindEq, ?_, fun delimited byte stands => ?_⟩
        · rw [String.toList_ofList]
          exact Pattern.matches_of_split? taken
        · rw [extent] at stands
          exact behind.mem_delimiterBytes (ends delimited) stands

/-- A byte that a step passes over is a separator, or it belongs to what is read. -/
theorem Place.Reached.covered (reached : place.Reached text) {read : Scan}
    (step : place.Step read next) {offset : Nat} (behind : place.position ≤ offset)
    (before : offset < next.position) {byte : UInt8}
    (stands : (Text.utf8Bytes text)[offset]? = some byte) :
    byte ∈ separatorBytes ∨ offset ∈ read.strays.map Stray.position ∨
      ∃ token ∈ read.tokens, token.position ≤ offset ∧ offset < token.stop := by
  have separators : ∀ c ∈ [' ', '\t', '\n', '\r', '\x0c'],
      c.utf8Size = 1 ∧ c.val.toUInt8 ∈ separatorBytes := List.all_iff_forall_prop.mp (by decide)
  cases step with
  | @separator position last c rest separates =>
    obtain ⟨single, listed⟩ := separators c (by simpa [isSeparator, or_assoc] using separates)
    obtain rfl : offset = position := by simp only [single] at behind before; omega
    rw [reached.getElem?_utf8Bytes rfl single] at stands
    exact .inl (by rwa [← Option.some.inj stands])
  | @token position last kind lexeme rest found =>
    refine .inr (.inr ⟨_, List.mem_singleton.mpr rfl, behind, ?_⟩)
    rwa [Token.stop_ofList]
  | @stray position last c rest word missing =>
    have single := (isStray_of_nextToken? word missing).utf8Size
    obtain rfl : offset = position := by simp only [single] at behind before; omega
    exact .inr (.inl (List.mem_singleton.mpr rfl))

/-- Every byte of a text is a separator, or it belongs to what is read from the text. -/
theorem covered_scan {offset : Nat} {byte : UInt8}
    (stands : (Text.utf8Bytes text)[offset]? = some byte) :
    byte ∈ separatorBytes ∨ offset ∈ (scan text).strays.map Stray.position ∨
      ∃ token ∈ (scan text).tokens, token.position ≤ offset ∧ offset < token.stop := by
  obtain ⟨finish, steps, ended⟩ := Place.exists_steps (.start text)
  have inside : offset < finish.position := by
    obtain ⟨front, whole, position⟩ := Place.Reached.exists_front ⟨_, steps⟩
    rw [ended, List.append_nil] at whole
    rw [position, ← whole, ← Text.length_utf8Encode]
    exact (List.getElem?_eq_some_iff.mp stands).1
  obtain ⟨before, here, read, next, earlier, step, passed, ahead⟩ :=
    steps.exists_step_at (Nat.zero_le offset) inside
  have reached : here.Reached text := ⟨before, earlier⟩
  -- What this one step reads is among all that is read.
  obtain ⟨sooner, later, same⟩ := reached.scan_eq step
  rw [same]
  simp only [Scan.append, List.map_append, List.mem_append]
  rcases reached.covered step passed ahead stands with
    separator | reported | ⟨token, listed, extent⟩
  · exact .inl separator
  · exact .inr (.inl (.inr (.inl reported)))
  · exact .inr (.inr ⟨token, .inr (.inl listed), extent⟩)

/-- What is read from a text accounts for it. -/
theorem accountsFor_scan (text : String) :
    AccountsFor text (scan text).tokens ((scan text).strays.map Stray.position) := by
  obtain ⟨finish, steps, -⟩ := Place.exists_steps (.start text)
  rw [Place.scan_start] at steps
  have within := steps.within
  have standsIn : ∀ token ∈ (scan text).tokens, token.StandsIn text := by
    intro token listed
    obtain ⟨before, here, next, earlier, step⟩ := steps.exists_step_of_token listed
    exact Place.Reached.standsIn ⟨before, earlier⟩ step
  refine ⟨standsIn, ?_, within.tokensApart, fun offset byte => covered_scan, ?_⟩
  · refine within.tokensApart.imp_of_mem fun {first second} listed _ apart => ?_
    exact Nat.lt_of_lt_of_le (standsIn first listed).position_lt_stop apart
  · intro offset reported token listed
    obtain ⟨stray, strayListed, rfl⟩ := List.mem_map.mp reported
    exact within.apart token listed stray strayListed

end Accounts

section Tokenizing

theorem tokenize_eq_ok_iff {text : String} {list : TokenList} :
    tokenize text = .ok list ↔ (scan text).strays = [] ∧
      list = ⟨(scan text).tokens, Text.utf8Length text.toList⟩ := by
  simp only [tokenize]
  split
  · next clean => simp [clean, eq_comm]
  · next dirty =>
    refine iff_of_false (fun same => ?_) fun clean => dirty clean.1
    cases same

theorem tokenize_eq_error_iff {text : String} {strays : List Stray} :
    tokenize text = .error strays ↔ strays ≠ [] ∧ strays = (scan text).strays := by
  simp only [tokenize]
  split
  · next clean =>
    rw [clean]
    simp
  · next dirty =>
    simp only [Except.error.injEq]
    constructor
    · rintro rfl
      exact ⟨dirty, rfl⟩
    · rintro ⟨-, same⟩
      exact same.symm

/-- The listing of a text is lossless: it ends with a single line for the end of the text, and the
tokens before that account for every byte of the text but the separators. -/
theorem tokenize_accountsFor {text : String} {list : TokenList}
    (tokenized : tokenize text = .ok list) :
    list.listing = list.tokens.map Token.line ++ [⟨"EOF", "", text.utf8ByteSize⟩] ∧
      (∀ line ∈ list.tokens.map Token.line, line.name ≠ "EOF") ∧
      AccountsFor text list.tokens [] := by
  refine ⟨by rw [TokenList.listing, tokenize_stop tokenized], ?_, ?_⟩
  · intro line listed
    obtain ⟨token, -, rfl⟩ := List.mem_map.mp listed
    show token.kind.name ≠ "EOF"
    cases token.kind <;> decide
  · obtain ⟨clean, rfl⟩ := tokenize_eq_ok_iff.mp tokenized
    have accounts := accountsFor_scan text
    rwa [clean] at accounts

/-- Characters of several bytes, a sign that is part of a number, and one that is not. -/
theorem tokenize_accountsFor_multibyte :
    ∃ list, tokenize "prix>\x0c-1.5s AND -é.\"日本\"" = .ok list ∧
      list.listing = [⟨"TEXT", "prix", 0⟩, ⟨"COMPARATOR", ">", 4⟩, ⟨"DURATION", "-1.5s", 6⟩,
        ⟨"AND", "AND", 12⟩, ⟨"MINUS", "-", 16⟩, ⟨"TEXT", "é", 17⟩, ⟨"DOT", ".", 19⟩,
        ⟨"STRING", "\"日本\"", 20⟩, ⟨"EOF", "", 28⟩] ∧
      AccountsFor "prix>\x0c-1.5s AND -é.\"日本\"" list.tokens [] := by
  have tokenized : tokenize "prix>\x0c-1.5s AND -é.\"日本\"" = .ok _ := rfl
  exact ⟨_, tokenized, rfl, (tokenize_accountsFor tokenized).2.2⟩

end Tokenizing

section Reporting

/-- The stray characters of a text are reported: each once and at its byte, exactly those that the
scan reaches, while the rest of the text is accounted for. -/
structure Reports (text : String) (strays : List Stray) : Prop where
  increasing : strays.Pairwise fun first second => first.position < second.position
  bytes : ∀ stray ∈ strays, stray.character ∈ ['!', ',', '"', '-'] ∧
    (Text.utf8Bytes text)[stray.position]? = some stray.character.val.toUInt8 ∧
    (⟨stray.position⟩ : String.Pos.Raw).IsValid text
  mem_iff : ∀ stray, stray ∈ strays ↔ ∃ last rest,
    Place.Reached text ⟨stray.position, last, stray.character :: rest⟩ ∧
      IsStray last stray.character rest
  accounts : AccountsFor text (scan text).tokens (strays.map Stray.position)

/-- The stray characters of a scan are those that it reaches. -/
theorem mem_strays_scan_iff {text : String} {stray : Stray} :
    stray ∈ (scan text).strays ↔ ∃ last rest,
      Place.Reached text ⟨stray.position, last, stray.character :: rest⟩ ∧
        IsStray last stray.character rest := by
  constructor
  · intro listed
    obtain ⟨finish, steps, -⟩ := Place.exists_steps (.start text)
    obtain ⟨before, here, next, earlier, step⟩ := steps.exists_step_of_stray listed
    cases step with
    | stray word missing => exact ⟨_, _, ⟨before, earlier⟩, isStray_of_nextToken? word missing⟩
  · rintro ⟨last, rest, reached, isStray⟩
    obtain ⟨before, behind, same⟩ := reached.scan_eq (.stray isStray.isSeparator isStray.nextToken?)
    rw [same]
    exact List.mem_append_right _ List.mem_cons_self

theorem reports_scan (text : String) : Reports text (scan text).strays where
  increasing := by
    obtain ⟨finish, steps, -⟩ := Place.exists_steps (.start text)
    exact steps.within.straysApart
  bytes stray listed := by
    obtain ⟨last, rest, reached, isStray⟩ := mem_strays_scan_iff.mp listed
    exact ⟨isStray.mem, reached.getElem?_utf8Bytes rfl isStray.utf8Size, reached.isValid⟩
  mem_iff _ := mem_strays_scan_iff
  accounts := accountsFor_scan text

/-- A text is refused exactly if the scan reaches a stray character, and then all of them are
reported. -/
theorem tokenize_reports (text : String) :
    ((∃ list, tokenize text = .ok list) ↔ ∀ position last c rest,
      Place.Reached text ⟨position, last, c :: rest⟩ → ¬ IsStray last c rest) ∧
    ∀ strays, tokenize text = .error strays → strays ≠ [] ∧ Reports text strays := by
  constructor
  · constructor
    · rintro ⟨list, tokenized⟩ position last c rest reached isStray
      have listed : ⟨c, position⟩ ∈ (scan text).strays :=
        mem_strays_scan_iff.mpr ⟨last, rest, reached, isStray⟩
      rw [(tokenize_eq_ok_iff.mp tokenized).1] at listed
      cases listed
    · intro noStray
      refine ⟨_, tokenize_eq_ok_iff.mpr ⟨List.eq_nil_iff_forall_not_mem.mpr ?_, rfl⟩⟩
      intro stray listed
      obtain ⟨last, rest, reached, isStray⟩ := mem_strays_scan_iff.mp listed
      exact noStray _ _ _ _ reached isStray
  · intro strays failed
    obtain ⟨nonempty, rfl⟩ := tokenize_eq_error_iff.mp failed
    exact ⟨nonempty, reports_scan text⟩

/-- The four stray characters, one of each. The quotation mark opens no string, and the scan goes on
behind it. -/
theorem tokenize_reports_each :
    tokenize "é=-1x, !a \"日" = .error [⟨'-', 3⟩, ⟨',', 6⟩, ⟨'!', 8⟩, ⟨'"', 11⟩] ∧
      Reports "é=-1x, !a \"日" [⟨'-', 3⟩, ⟨',', 6⟩, ⟨'!', 8⟩, ⟨'"', 11⟩] :=
  ⟨rfl, ((tokenize_reports _).2 _ rfl).2⟩

end Reporting

end FilterQuery
