import BoundQuery.Proofs.Phrases
import BoundQuery.Value

/-!
Scalars read back from their JSON text. Every string, flag and null does, and every integer of 64
bits with a sign; so no two of them have the same text.
-/

set_option autoImplicit false

namespace BoundQuery.Json

theorem hexValue?_hexDigits {code : Nat} (small : code < 16) :
    ∃ digit, Text.hexDigits code = [digit] ∧ hexValue? digit = some code := by
  have each : ∀ code < 16, hexValue? (Nat.digitChar code) = some code := by decide
  exact ⟨Nat.digitChar code, Nat.toDigits_of_lt_base small, each code small⟩

theorem readUnicodeEscape_control {char : Char} (control : char.toNat < 0x20) (rest : List Char) :
    readUnicodeEscape ('0' :: '0' :: (Text.hexDigits (char.toNat / 16) ++
      (Text.hexDigits (char.toNat % 16) ++ rest))) = .ok (char, rest) := by
  obtain ⟨high, first, upper⟩ : ∃ digit, Text.hexDigits (char.toNat / 16) = [digit] ∧
      hexValue? digit = some (char.toNat / 16) := hexValue?_hexDigits (by omega)
  obtain ⟨low, second, lower⟩ : ∃ digit, Text.hexDigits (char.toNat % 16) = [digit] ∧
      hexValue? digit = some (char.toNat % 16) := hexValue?_hexDigits (Nat.mod_lt _ (by decide))
  have zero : hexValue? '0' = some 0 := rfl
  have whole : 4096 * 0 + 256 * 0 + 16 * (char.toNat / 16) + char.toNat % 16 = char.toNat := by
    omega
  have code : readHex ('0' :: '0' :: high :: low :: rest) = .ok (char.toNat, rest) := by
    rw [readHex, zero, upper, lower]
    dsimp only
    rw [whole]
  have single : ¬0xDC00 ≤ char.toNat ∧ ¬0xD800 ≤ char.toNat := by omega
  rw [first, second]
  unfold readUnicodeEscape
  rw [List.singleton_append, List.singleton_append, code]
  simp only [bind, Except.bind, single.1, single.2, decide_false, Bool.false_and,
    Bool.false_eq_true, if_false, Char.ofNat_toNat, pure, Except.pure]

/-- A written character stands for itself, or is read back from its escape. -/
theorem writeChar_cases (char : Char) :
    (writeChar char = [char] ∧ char ≠ '"' ∧ char ≠ '\\' ∧ ¬char.toNat < 0x20) ∨
      ∃ escape, writeChar char = '\\' :: escape ∧
        ∀ rest, readEscape (escape ++ rest) = .ok (char, rest) := by
  unfold writeChar
  split
  · rename_i same
    rw [beq_iff_eq.mp same]
    exact .inr ⟨['"'], rfl, fun _ => rfl⟩
  split
  · rename_i same
    rw [beq_iff_eq.mp same]
    exact .inr ⟨['\\'], rfl, fun _ => rfl⟩
  split
  · rename_i same
    rw [beq_iff_eq.mp same]
    exact .inr ⟨['n'], rfl, fun _ => rfl⟩
  split
  · rename_i same
    rw [beq_iff_eq.mp same]
    exact .inr ⟨['r'], rfl, fun _ => rfl⟩
  split
  · rename_i same
    rw [beq_iff_eq.mp same]
    exact .inr ⟨['t'], rfl, fun _ => rfl⟩
  split
  · rename_i same
    have code : char = '\x08' := Char.toNat_inj.mp (beq_iff_eq.mp same)
    rw [code]
    exact .inr ⟨['b'], rfl, fun _ => rfl⟩
  split
  · rename_i same
    have code : char = '\x0c' := Char.toNat_inj.mp (beq_iff_eq.mp same)
    rw [code]
    exact .inr ⟨['f'], rfl, fun _ => rfl⟩
  split
  · rename_i control
    right
    refine ⟨'u' :: '0' :: '0' :: (Text.hexDigits (char.toNat / 16) ++
      Text.hexDigits (char.toNat % 16)), by simp, ?_⟩
    intro rest
    have read := readUnicodeEscape_control control rest
    simp only [List.cons_append, List.append_assoc]
    exact read
  · rename_i quote backslash _ _ _ _ _ plain
    exact .inl ⟨rfl, fun same => quote (beq_iff_eq.mpr same),
      fun same => backslash (beq_iff_eq.mpr same), plain⟩

theorem readChars_written (rest : List Char) (chars : List Char) :
    ∀ (steps : Nat) (seen : List Char), chars.length < steps →
      readChars steps seen (chars.flatMap writeChar ++ '"' :: rest) =
        .ok (seen.reverse ++ chars, rest) := by
  induction chars with
  | nil =>
      intro steps seen enough
      cases steps with
      | zero => cases enough
      | succ steps =>
          rw [List.append_nil]
          rfl
  | cons char others ih =>
      intro steps seen enough
      cases steps with
      | zero => cases enough
      | succ steps =>
          have further := ih steps (char :: seen) (Nat.lt_of_succ_lt_succ enough)
          rw [List.reverse_cons, List.append_assoc, List.singleton_append] at further
          rw [List.flatMap_cons]
          rcases writeChar_cases char with ⟨own, quote, backslash, visible⟩ | ⟨escape, own, read⟩
          · rw [own, List.singleton_append, List.cons_append, readChars,
              if_neg (by simpa using quote), if_neg (by simpa using backslash), if_neg visible]
            exact further
          · rw [own, List.cons_append, List.cons_append, readChars, if_neg (by decide),
              if_pos (by decide), List.append_assoc, read]
            exact further

theorem length_le_flatMap_writeChar (chars : List Char) :
    chars.length ≤ (chars.flatMap writeChar).length := by
  induction chars with
  | nil => exact Nat.le_refl 0
  | cons char rest ih =>
      have own : 1 ≤ (writeChar char).length := by
        rcases writeChar_cases char with ⟨written, _⟩ | ⟨escape, written, _⟩
        · rw [written, List.length_singleton]
        · rw [written, List.length_cons]
          omega
      rw [List.flatMap_cons, List.length_append, List.length_cons]
      omega

theorem readString_written (text : String) (rest : List Char) :
    readString (text.toList.flatMap writeChar ++ '"' :: rest) = .ok (text, rest) := by
  have enough : text.toList.length <
      (text.toList.flatMap writeChar ++ '"' :: rest).length + 1 := by
    have own := length_le_flatMap_writeChar text.toList
    rw [List.length_append]
    omega
  unfold readString
  rw [readChars_written rest text.toList _ [] enough, List.reverse_nil, List.nil_append]
  simp [bind, Except.bind, pure, Except.pure]

theorem digitsValue_toDigits (number : Nat) :
    Decimal.digitsValue (Nat.toDigits 10 number) = number := by
  have value := @Nat.ofDigitChars_ten_toDigits number
  rw [Nat.ofDigitChars_eq_foldl] at value
  exact value

theorem head_toDigits {number : Nat} (positive : 0 < number) :
    (Nat.toDigits 10 number).head? ≠ some '0' := by
  induction number using Nat.strongRecOn with
  | ind number ih =>
      by_cases single : number < 10
      · have each : ∀ digit < 10, 0 < digit → Nat.digitChar digit ≠ '0' := by decide
        rw [Nat.toDigits_of_lt_base single]
        intro same
        exact each number single positive (Option.some.inj same)
      · rw [Nat.toDigits_of_base_le (by decide) (Nat.le_of_not_lt single),
          List.head?_append_of_ne_nil _ Nat.toDigits_ne_nil]
        exact ih (number / 10) (by omega) (by omega)

theorem readNumber_digits (negative : Bool) {number : Nat} {found : Number}
    (integer : integerNumber negative number = some found) :
    readNumber negative (Nat.toDigits 10 number) = .ok (found, []) := by
  have digits : ∀ char ∈ Nat.toDigits 10 number, char.isDigit = true :=
    fun _ member => Nat.isDigit_of_mem_toDigits (by decide) (by decide) member
  have whole : (Nat.toDigits 10 number).takeWhile Char.isDigit = Nat.toDigits 10 number :=
    List.takeWhile_eq_self_iff.mpr digits
  have none : (Nat.toDigits 10 number).dropWhile Char.isDigit = [] :=
    List.dropWhile_eq_nil_iff.mpr digits
  have value := digitsValue_toDigits number
  unfold readNumber
  rw [whole, none]
  dsimp only
  split
  · rename_i empty
    exact absurd empty Nat.toDigits_ne_nil
  · rename_i second more leading
    have zero : number = 0 := by
      by_contra positive
      exact head_toDigits (Nat.pos_of_ne_zero positive) (by rw [leading]; rfl)
    rw [zero] at leading
    cases leading
  · rw [value, integer]
    rfl

theorem readChecked_of_value {chars : List Char} {value : Json}
    (read : ∀ steps depth, readValue (steps + 1) depth chars = .ok (value, [])) :
    readChecked chars = .ok value := by
  unfold readChecked
  rw [read]
  rfl

theorem readChecked_string (text : String) :
    readChecked (writeString text) = .ok (.string text) := by
  apply readChecked_of_value
  intro steps depth
  have content := readString_written text []
  have start : skipSpace (writeString text) = writeString text := rfl
  unfold readValue
  rw [start]
  unfold writeString
  rw [List.cons_append]
  dsimp only
  rw [if_neg (by decide), if_neg (by decide), if_neg (by decide), if_neg (by decide),
    if_neg (by decide), if_pos (by decide), content]
  rfl

theorem readChecked_number {negative : Bool} {number : Nat} {found : Number}
    (integer : integerNumber negative number = some found) :
    readChecked (Decimal.signOf negative ++ Nat.toDigits 10 number) = .ok (.number found) := by
  have digits := readNumber_digits negative integer
  apply readChecked_of_value
  intro steps depth
  cases negative with
  | true =>
      unfold readValue
      have start : skipSpace (Decimal.signOf true ++ Nat.toDigits 10 number) =
          '-' :: Nat.toDigits 10 number := rfl
      rw [start]
      dsimp only
      rw [if_neg (by decide), if_neg (by decide), if_neg (by decide), if_pos (by decide), digits]
      rfl
  | false =>
      cases written : Nat.toDigits 10 number with
      | nil => exact absurd written Nat.toDigits_ne_nil
      | cons digit rest =>
          have member : digit ∈ Nat.toDigits 10 number := written ▸ List.mem_cons_self
          have own : digit.isDigit = true :=
            Nat.isDigit_of_mem_toDigits (by decide) (by decide) member
          have apart (mark : Char) (outside : mark.toNat < 48 ∨ 57 < mark.toNat) :
              ¬(digit == mark) = true := by
            rw [beq_iff_eq]
            exact ne_of_isDigit own outside
          have start : skipSpace (Decimal.signOf false ++ digit :: rest) = digit :: rest := by
            apply List.dropWhile_cons_of_neg
            unfold isSpace
            simp only [Bool.or_eq_true, not_or]
            exact ⟨⟨⟨apart _ (by decide), apart _ (by decide)⟩, apart _ (by decide)⟩,
              apart _ (by decide)⟩
          rw [written] at digits
          unfold readValue
          rw [start]
          dsimp only
          rw [if_neg (apart _ (by decide)), if_neg (apart _ (by decide)),
            if_neg (apart _ (by decide)), if_neg (apart _ (by decide)), if_pos own, digits]
          rfl

end BoundQuery.Json

namespace BoundQuery.Value

/-- Neither JSON nor a number with a fraction; integers have 64 bits with a sign. -/
def Scalar : Value → Prop
  | .null => True
  | .bool _ => True
  | .int number => fitsSigned number = true
  | .string _ => True
  | .float _ => False
  | .json _ => False

theorem integerNumber_of_fitsSigned {number : Int} (fits : fitsSigned number = true) :
    Json.integerNumber (number < 0) number.natAbs = some (.int number) := by
  unfold fitsSigned leastSigned greatestSigned at fits
  simp only [Bool.and_eq_true, decide_eq_true_eq] at fits
  unfold Json.integerNumber
  by_cases negative : number < 0
  · have small : (0 < number.natAbs && number.natAbs ≤ leastSigned.natAbs) = true := by
      unfold leastSigned
      simp only [Bool.and_eq_true, decide_eq_true_eq]
      omega
    rw [if_pos (decide_eq_true negative), if_pos small]
    congr 2
    omega
  · have small : number.natAbs ≤ greatestWord := by
      unfold greatestWord
      omega
    rw [if_neg (by simpa using negative), if_pos small]
    congr 2
    omega

/-- A scalar is read back from its text. -/
theorem decode?_encode {value : Value} (scalar : value.Scalar) :
    decode? value.encode = some value := by
  have reads (json : Json) (read : Json.readChecked json.write = .ok json)
      (own : ofJson json = value) (encoded : value.toJson = json) :
      decode? value.encode = some value := by
    unfold decode? encode Json.text
    rw [encoded, Json.read, String.toList_ofList, read]
    exact congrArg some own
  cases value with
  | null => exact reads .null (by cbv) rfl rfl
  | bool flag =>
      cases flag with
      | true => exact reads (.bool true) (by cbv) rfl rfl
      | false => exact reads (.bool false) (by cbv) rfl rfl
  | int number =>
      have fits : fitsSigned number = true := scalar
      exact reads (.number (.int number))
        (Json.readChecked_number (integerNumber_of_fitsSigned fits)) (if_pos fits) rfl
  | string text => exact reads (.string text) (Json.readChecked_string text) rfl rfl
  | float number => exact scalar.elim
  | json value => exact scalar.elim

theorem encode_inj {first second : Value} (scalar : first.Scalar) (other : second.Scalar)
    (same : first.encode = second.encode) : first = second := by
  have read := decode?_encode scalar
  rw [same, decode?_encode other] at read
  exact (Option.some.inj read).symm

end BoundQuery.Value
