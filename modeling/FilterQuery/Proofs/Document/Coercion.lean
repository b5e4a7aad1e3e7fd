import FilterQuery.Document.Coercion
import FilterQuery.Proofs.Number.Single

/-!
# Coercion keeps to the type

What coercion returns is of the type that was asked for: it carries that type, and it is one of the
values the type has. Integers come through unchanged, and exactly those in range come through.

The range of an integer type is given by its ends, so that the test of the code (`holds`) is
compared with a table. Identifiers are of a type when they have its number of bytes.
-/

namespace FilterQuery

/-- The least and the greatest integer of a type. -/
def IntegerType.ends (type : IntegerType) : Int × Int :=
  match type.signed, type.width with
  | true, .bits8 => (-128, 127)
  | true, .bits16 => (-32768, 32767)
  | true, .bits32 => (-2147483648, 2147483647)
  | true, .bits64 | true, .word => (-9223372036854775808, 9223372036854775807)
  | false, .bits8 => (0, 255)
  | false, .bits16 => (0, 65535)
  | false, .bits32 => (0, 4294967295)
  | false, .bits64 | false, .word => (0, 18446744073709551615)

/-- An integer lies in the range of a type. -/
def IntegerType.InRange (type : IntegerType) (n : Int) : Prop :=
  type.ends.1 ≤ n ∧ n ≤ type.ends.2

instance (type : IntegerType) (n : Int) : Decidable (type.InRange n) :=
  inferInstanceAs (Decidable (_ ∧ _))

theorem IntegerType.ends_eq (type : IntegerType) :
    type.ends = if type.signed then
        (-Int.pow 2 (type.width.bits - 1), Int.pow 2 (type.width.bits - 1) - 1)
      else (0, Int.pow 2 type.width.bits - 1) := by
  obtain ⟨name, signed, width⟩ := type
  cases signed <;> cases width <;> rfl

theorem IntegerType.holds_iff_inRange (type : IntegerType) (n : Int) :
    type.holds n = true ↔ type.InRange n := by
  rw [holds, InRange, ends_eq]
  split <;> rw [Bool.and_eq_true, decide_eq_true_iff, decide_eq_true_iff, Int.le_sub_one_iff]

/-- The type that a piece of data carries. -/
def Datum.type? : Datum → Option ElementType
  | .integer type _ => some (.integer type)
  | .float type _ => some (.float type)
  | .boolean name _ => some (.boolean name)
  | .string name _ => some (.string name)
  | .instant _ => some .instant
  | .uuid _ => some .uuid
  | .ulid _ => some .ulid
  | .objectId _ => some .objectId
  | .null | .regex _ | .noDocument | .document _ | .array _ => none

/-- A piece of data is one of the values that its type has. -/
def Datum.IsProper : Datum → Prop
  | .integer type n => type.InRange n
  | .float type x => type.single = true → x.IsSingle
  | .uuid bytes | .ulid bytes => bytes.length = 16
  | .objectId bytes => bytes.length = 12
  | _ => True

/-- The type as data carry it: lengths of time are integers of the type of that name. -/
def ElementType.inData : ElementType → ElementType
  | .duration => .integer .duration
  | type => type

/-- Whether coercion has rules for a type. -/
def ElementType.hasRules : ElementType → Bool
  | .bytes | .other _ | .struct _ => false
  | _ => true

section Identifiers

theorem Text.length_of_readHex? {digits bytes : List UInt8}
    (read : Text.readHex? digits = some bytes) : digits.length = 2 * bytes.length := by
  induction digits using Text.readHex?.induct generalizing bytes with
  | case1 =>
    cases read
    rfl
  | case2 => cases read
  | case3 high low rest upper lower isUpper isLower inductionHypothesis =>
    simp only [Text.readHex?, isUpper, isLower, Option.map_eq_some_iff] at read
    obtain ⟨tail, readTail, rfl⟩ := read
    have tailLength := inductionHypothesis readTail
    simp only [List.length_cons]
    omega
  | case4 high low rest noDigits =>
    rw [Text.readHex?] at read
    split at read
    · next isUpper isLower => exact absurd isLower (noDigits _ _ isUpper)
    · cases read

/-- Pairs of digits always spell bytes. -/
theorem Text.exists_readHex? {digits : List UInt8} (even : digits.length % 2 = 0)
    (valid : ∀ digit ∈ digits, (Text.hexValue? digit).isSome = true) :
    ∃ bytes, Text.readHex? digits = some bytes := by
  induction digits using Text.readHex?.induct with
  | case1 => exact ⟨[], rfl⟩
  | case2 => cases even
  | case3 high low rest upper lower isUpper isLower inductionHypothesis =>
    have evenRest : rest.length % 2 = 0 := by
      simp only [List.length_cons] at even
      omega
    obtain ⟨tail, readTail⟩ := inductionHypothesis evenRest fun digit member =>
      valid digit (List.mem_cons_of_mem _ (List.mem_cons_of_mem _ member))
    rw [Text.readHex?, isUpper, isLower, readTail]
    exact ⟨_, rfl⟩
  | case4 high low rest noDigits =>
    obtain ⟨upper, isUpper⟩ := Option.isSome_iff_exists.mp (valid high (by simp))
    obtain ⟨lower, isLower⟩ := Option.isSome_iff_exists.mp (valid low (by simp))
    exact absurd isLower (noDigits _ _ isUpper)

theorem Uuid.length_of_readDigits {digits bytes : List UInt8} (count : digits.length = 32)
    (read : Uuid.readDigits digits = .ok bytes) : bytes.length = 16 := by
  rw [Uuid.readDigits] at read
  split at read
  · next isRead =>
    cases read
    have doubled := Text.length_of_readHex? isRead
    omega
  · cases read

theorem Uuid.length_of_readHyphenated {text bytes : List UInt8} (long : 36 ≤ text.length)
    (read : Uuid.readHyphenated text = .ok bytes) : bytes.length = 16 := by
  simp only [Uuid.readHyphenated] at read
  split at read
  · apply Uuid.length_of_readDigits _ read
    simp only [List.length_append, List.length_take, List.length_drop]
    omega
  · cases read

theorem Uuid.length_of_read {text : String} {bytes : List UInt8}
    (read : Uuid.read text = .ok bytes) : bytes.length = 16 := by
  simp only [Uuid.read] at read
  split at read
  · next count => exact Uuid.length_of_readHyphenated count.ge read
  · next count =>
    split at read
    · apply Uuid.length_of_readHyphenated _ read
      rw [List.length_drop, count]
    · cases read
  · next count =>
    apply Uuid.length_of_readHyphenated _ read
    rw [List.length_drop, count]
    omega
  · next count => exact Uuid.length_of_readDigits count read
  · cases read

theorem Ulid.length_bytesOf (count n : Nat) : (Ulid.bytesOf count n).length = count := by
  induction count generalizing n with
  | zero => rfl
  | succ count inductionHypothesis =>
    rw [Ulid.bytesOf, List.length_append, inductionHypothesis, List.length_singleton]

theorem Ulid.length_of_read {text : String} {bytes : List UInt8}
    (read : Ulid.read text = .ok bytes) : bytes.length = 16 := by
  simp only [Ulid.read] at read
  split at read
  · cases read
  · split at read
    · cases read
    · split at read
      · cases read
      · rw [← Except.ok.inj read]
        exact Ulid.length_bytesOf _ _

theorem ObjectId.length_of_read {text : String} {bytes : List UInt8}
    (read : ObjectId.read text = .ok bytes) : bytes.length = 12 := by
  simp only [ObjectId.read] at read
  split at read
  · cases read
  · next count =>
    split at read
    · cases read
    · next noneInvalid =>
      have valid : ∀ digit ∈ Text.utf8Bytes text, (Text.hexValue? digit).isSome = true := by
        intro digit member
        simpa [Option.isSome_iff_ne_none] using List.find?_eq_none.mp noneInvalid digit member
      obtain ⟨spelled, isSpelled⟩ := Text.exists_readHex? (by omega) valid
      have doubled := Text.length_of_readHex? isSpelled
      rw [isSpelled] at read
      cases read
      rw [Option.getD_some]
      omega

end Identifiers

theorem Value.nanoseconds_inRange (milliseconds : Binary64) :
    IntegerType.duration.InRange (Value.nanoseconds milliseconds) := by
  rw [Value.nanoseconds]
  split
  · split
    · next fits => exact (IntegerType.holds_iff_inRange .int64 _).mp fits
    · decide
  · decide

/-- What a reader returns through coercion is what it read. -/
theorem eq_ok_of_mapped {Fault Result : Type} {outcome : Except Fault Result}
    {wrap : Result → Datum} {blame : Fault → CoercionFault} {datum : Datum}
    (mapped : (outcome.map wrap).mapError blame = .ok datum) :
    ∃ result, outcome = .ok result ∧ wrap result = datum := by
  cases outcome with
  | error fault => cases mapped
  | ok result =>
    cases mapped
    exact ⟨result, rfl, rfl⟩

namespace ElementType

variable {value : Value} {datum : Datum}

theorem coerceInteger_eq {type : IntegerType} {n : Int} (whole : value.wholeNumber? = some n) :
    coerceInteger type value = if type.InRange n then .ok (.integer type n)
      else .error (.overflow (toString n) type.name) := by
  simp only [coerceInteger, whole, IntegerType.holds_iff_inRange]

theorem coerceInteger_sound {type : IntegerType} (coerced : coerceInteger type value = .ok datum) :
    datum.type? = some (.integer type) ∧ datum.IsProper := by
  cases whole : value.wholeNumber? with
  | none =>
    rw [coerceInteger, whole] at coerced
    cases coerced
  | some n =>
    rw [coerceInteger_eq whole] at coerced
    split_ifs at coerced with inRange
    cases coerced
    exact ⟨rfl, inRange⟩

theorem coerceFloat_sound {type : FloatType} (coerced : coerceFloat type value = .ok datum) :
    datum.type? = some (.float type) ∧ datum.IsProper := by
  simp only [coerceFloat] at coerced
  split at coerced
  · split at coerced
    · cases coerced
    · cases coerced
      refine ⟨rfl, fun isSingle => ?_⟩
      rw [if_pos isSingle]
      exact Binary64.isSingle_toSingle _
  · cases coerced

theorem coerceInstant_sound (coerced : coerceInstant value = .ok datum) :
    datum.type? = some .instant ∧ datum.IsProper := by
  simp only [coerceInstant] at coerced
  split at coerced
  · cases coerced
    exact ⟨rfl, trivial⟩
  · obtain ⟨moment, -, rfl⟩ := eq_ok_of_mapped coerced
    exact ⟨rfl, trivial⟩
  · cases coerced

theorem coerce_sound {type : ElementType} (ruled : type.hasRules = true)
    (coerced : type.coerce value = .ok datum) :
    datum.type? = some type.inData ∧ datum.IsProper := by
  cases type with
  | instant => exact coerceInstant_sound coerced
  | duration =>
    simp only [coerce] at coerced
    split at coerced
    · next nanoseconds lasts =>
      cases coerced
      refine ⟨rfl, ?_⟩
      simp only [Value.duration?] at lasts
      split at lasts
      · cases lasts
        exact Value.nanoseconds_inRange _
      · cases lasts
    · cases coerced
  | uuid =>
    obtain ⟨bytes, isRead, rfl⟩ := eq_ok_of_mapped coerced
    exact ⟨rfl, Uuid.length_of_read isRead⟩
  | ulid =>
    obtain ⟨bytes, isRead, rfl⟩ := eq_ok_of_mapped coerced
    exact ⟨rfl, Ulid.length_of_read isRead⟩
  | objectId =>
    obtain ⟨bytes, isRead, rfl⟩ := eq_ok_of_mapped coerced
    exact ⟨rfl, ObjectId.length_of_read isRead⟩
  | string name =>
    cases coerced
    exact ⟨rfl, trivial⟩
  | boolean name =>
    simp only [coerce] at coerced
    split at coerced
    · cases coerced
      exact ⟨rfl, trivial⟩
    · cases coerced
  | integer type => exact coerceInteger_sound coerced
  | float type => exact coerceFloat_sound coerced
  | bytes | other | struct => cases ruled

end ElementType

theorem Value.wholeNumber?_of_integer? {value : Value} {n : Int}
    (isInteger : value.integer? = some n) : value.wholeNumber? = some n := by
  rw [wholeNumber?]
  split
  · next isDuration =>
    rw [integer?, isDuration] at isInteger
    cases isInteger
  · exact isInteger

/-- A coerced value is of the type of the field's elements, and an integer is coerced to itself if
it is in range and otherwise refused. -/
theorem FieldType.coerce_keeps_type_and_integers (type : FieldType) (value : Value) :
    (∀ datum, type.elementType.hasRules = true → type.elementType.coerce value = .ok datum →
      datum.type? = some type.elementType.inData ∧ datum.IsProper) ∧
    ∀ integerType n, type.elementType = .integer integerType → value.integer? = some n →
      ((∃ datum, type.elementType.coerce value = .ok datum) ↔ integerType.InRange n) ∧
      (integerType.InRange n → type.elementType.coerce value = .ok (.integer integerType n)) ∧
      (¬ integerType.InRange n → type.elementType.coerce value =
        .error (.overflow (toString n) integerType.name)) := by
  refine ⟨fun datum ruled coerced => ElementType.coerce_sound ruled coerced, ?_⟩
  intro integerType n isInteger isNumber
  have outcome : type.elementType.coerce value = if integerType.InRange n
      then .ok (.integer integerType n)
      else .error (.overflow (toString n) integerType.name) := by
    rw [isInteger]
    exact ElementType.coerceInteger_eq (Value.wholeNumber?_of_integer? isNumber)
  by_cases inRange : integerType.InRange n
  · rw [if_pos inRange] at outcome
    exact ⟨⟨fun _ => inRange, fun _ => ⟨_, outcome⟩⟩, fun _ => outcome, fun outside =>
      absurd inRange outside⟩
  · rw [if_neg inRange] at outcome
    refine ⟨⟨?_, fun within => absurd within inRange⟩, fun within => absurd within inRange,
      fun _ => outcome⟩
    rintro ⟨datum, coerced⟩
    rw [outcome] at coerced
    cases coerced

/-- Through a reference to a collection of small integers the last number in range is kept, and a
negative number is no unsigned one. -/
theorem FieldType.coerce_keeps_type_and_integers_ends :
    let level : IntegerType := ⟨"main.Level", true, .bits8⟩
    let levels : FieldType := .pointer (.collection "[]main.Level" (.element (.integer level)))
    let mask : IntegerType := ⟨"main.Mask", false, .bits64⟩
    (levels.elementType.coerce ⟨"127", .integer32 127⟩ = .ok (.integer level 127) ∧
      (Datum.integer level 127).type? = some levels.elementType.inData ∧
      (Datum.integer level 127).IsProper) ∧
    (FieldType.element (.integer mask)).elementType.coerce ⟨"-1", .integer64 (-1)⟩ =
      .error (.overflow "-1" "main.Mask") := by
  intro level levels mask
  have kept : levels.elementType.coerce ⟨"127", .integer32 127⟩ = .ok (.integer level 127) :=
    ((coerce_keeps_type_and_integers levels ⟨"127", .integer32 127⟩).2 level 127 rfl rfl).2.1
      (by decide)
  refine ⟨⟨kept, (coerce_keeps_type_and_integers levels _).1 _ rfl kept⟩, ?_⟩
  exact ((coerce_keeps_type_and_integers (.element (.integer mask)) ⟨"-1", .integer64 (-1)⟩).2
    mask (-1) rfl rfl).2.2 (by decide)

end FilterQuery
