import OtpToken.Device.Basic
import OtpToken.Proofs.Bits
import OtpToken.Proofs.Text

/-!
# What base32 texts stand for

The characters of a text that are neither blanks nor padding signs are its marks. Where
all of them are in the alphabet of RFC 4648, in either case, the secret is the bit string
of their values, cut to whole bytes (`decode_base32`). A mark outside the alphabet is
refused (`decode_of_stray`), unless it is dropped before it is looked at: the last mark
is, where it completes no byte (`Overlooked`).
-/

namespace OtpToken

namespace Secret

/-- The base32 alphabet of RFC 4648, in the order of the values. -/
def alphabet : List Char := "ABCDEFGHIJKLMNOPQRSTUVWXYZ234567".toList

/-- The value of a character of the alphabet, in either case. -/
def value (c : Char) : Nat := alphabet.idxOf c.toUpper

/-- The characters that mean nothing: ASCII blanks and padding signs. -/
def isFiller (c : Char) : Bool := c ∈ [' ', '\t', '\n', '\x0c', '\r', '=']

/-- The characters of a text that count. -/
def marks (text : String) : List Char := text.toList.filter fun c => !isFiller c

/-- All the marks of a text are in the alphabet. -/
def Spelled (text : String) : Prop := ∀ c ∈ marks text, c.toUpper ∈ alphabet

instance (text : String) : Decidable (Spelled text) :=
  List.decidableBAll (fun c : Char => c.toUpper ∈ alphabet) (marks text)

/-- The symbols of the lowest groups of five bits of a number, most significant group first. -/
def digits : (count number : Nat) → List Char
  | 0, _ => []
  | count + 1, number => digits count (number / 32) ++ [alphabet.getD (number % 32) 'A']

/-- The base32 encoding of a byte string, without padding signs: zero bits fill the last group
up. -/
def encode (key : Bytes) : List Char :=
  let count := (8 * key.length + 4) / 5
  digits count (ofBigEndian key <<< (5 * count - 8 * key.length))

/-- How many of the symbols of a text are looked at. -/
def kept (count : Nat) : Nat := if count % 8 ∈ [1, 3, 6] then count - 1 else count

variable {text : String}

section Symbols

/-- What is dropped of the symbols is the last one, where it completes no byte. -/
theorem dropSurplus_eq_take (symbols : Bytes) :
    dropSurplus symbols = symbols.take (kept symbols.length) := by
  unfold dropSurplus kept
  split
  · exact List.dropLast_eq_take
  · exact List.take_length.symm

/-- What is dropped completes no byte. -/
theorem kept_bytes (count : Nat) : 5 * kept count / 8 = 5 * count / 8 := by
  unfold kept
  split
  next surplus => simp only [List.mem_cons, List.not_mem_nil, or_false] at surplus; omega
  next => rfl

/-- No more symbols are looked at than there are. -/
theorem kept_le (count : Nat) : kept count ≤ count := by unfold kept; split <;> omega

/-- What the byte of an ASCII character means, seen on the character. -/
theorem ascii_symbol {c : Char} (ascii : c.toNat < 128) :
    (!isBlank (UInt8.ofNat c.toNat) && UInt8.ofNat c.toNat != 0x3d) = !isFiller c ∧
      symbolValue? (capital (UInt8.ofNat c.toNat)) = alphabet.idxOf? c.toUpper := by
  have codes : ∀ code : Fin 128,
      (!isBlank (UInt8.ofNat code) && UInt8.ofNat code != 0x3d) = !isFiller (Char.ofNat code) ∧
        symbolValue? (capital (UInt8.ofNat code)) =
          alphabet.idxOf? (Char.ofNat code).toUpper := by
    decide +kernel
  have meant := codes ⟨c.toNat, ascii⟩
  rwa [Char.ofNat_toNat] at meant

/-- A byte above the ASCII codes is a symbol without a value. -/
theorem high_symbol {byte : UInt8} (high : 128 ≤ byte.toNat) :
    (!isBlank byte && byte != 0x3d) = true ∧ symbolValue? (capital byte) = none := by
  have bytes : ∀ code : Fin 256, 128 ≤ code.val →
      (!isBlank (UInt8.ofNat code) && UInt8.ofNat code != 0x3d) = true ∧
        symbolValue? (capital (UInt8.ofNat code)) = none := by
    decide +kernel
  have meant := bytes ⟨byte.toNat, byte.toNat_lt⟩ high
  rwa [UInt8.ofNat_toNat] at meant

/-- No character of the alphabet is beyond the capital letters. -/
theorem code_le_of_mem_alphabet {c : Char} (member : c ∈ alphabet) : c.toNat ≤ 0x5a := by
  have all : (alphabet.all fun symbol => symbol.toNat ≤ 0x5a) = true := by decide +kernel
  exact of_decide_eq_true (List.all_eq_true.mp all c member)

/-- Characters beyond ASCII are not capitalized. -/
theorem toUpper_of_beyond {c : Char} (beyond : 128 ≤ c.toNat) : c.toUpper = c := by
  have above : ¬('a'.val ≤ c.val ∧ c.val ≤ 'z'.val) := by
    rintro ⟨_, below⟩
    exact absurd (show c.toNat ≤ 0x7a from below) (by omega)
  exact dif_neg above

/-- Characters beyond ASCII are no fillers. -/
theorem not_isFiller_of_beyond {c : Char} (beyond : 128 ≤ c.toNat) : isFiller c = false := by
  rw [isFiller, decide_eq_false_iff_not]
  intro member
  simp only [List.mem_cons, List.not_mem_nil, or_false] at member
  rcases member with rfl | rfl | rfl | rfl | rfl | rfl <;> exact absurd beyond (by decide)

/-- A character that is in the alphabet in either case is in ASCII. -/
theorem ascii_of_spelled {c : Char} (spelled : c.toUpper ∈ alphabet) : c.toNat < 128 := by
  refine Nat.lt_of_not_le fun beyond => ?_
  rw [toUpper_of_beyond beyond] at spelled
  exact absurd (code_le_of_mem_alphabet spelled) (by omega)

/-- The symbols of a text are the bytes of its marks. -/
theorem symbols_eq (text : String) : symbols text = (Bytes.ofChars (marks text)).map capital := by
  have kept : ∀ chars : List Char,
      ((Bytes.ofChars chars).filter fun byte => !isBlank byte && byte != 0x3d) =
        Bytes.ofChars (chars.filter fun c => !isFiller c) := by
    intro chars
    induction chars with
    | nil => rfl
    | cons c rest ih =>
      rw [Bytes.ofChars_cons, List.filter_append, ih]
      by_cases ascii : c.toNat < 128
      · rw [Bytes.utf8EncodeChar_of_ascii ascii, List.filter_cons, (ascii_symbol ascii).1]
        cases filler : isFiller c with
        | false => simp [filler, Bytes.utf8EncodeChar_of_ascii ascii]
        | true => simp [filler]
      · have beyond : 128 ≤ c.toNat := Nat.le_of_not_lt ascii
        have whole : ((String.utf8EncodeChar c).filter fun byte => !isBlank byte && byte != 0x3d) =
            String.utf8EncodeChar c :=
          List.filter_eq_self.mpr fun byte member =>
            (high_symbol (Bytes.high_of_mem_utf8EncodeChar beyond member)).1
        simp [whole, not_isFiller_of_beyond beyond]
  rw [symbols, Bytes.ofText_eq_ofChars, kept, marks]

/-- The symbol of a character of the alphabet has its value. -/
theorem symbolValue?_of_spelled {c : Char} (spelled : c.toUpper ∈ alphabet) :
    symbolValue? (capital (UInt8.ofNat c.toNat)) = some (value c) := by
  rw [(ascii_symbol (ascii_of_spelled spelled)).2, value]
  exact List.findIdx?_eq_some_iff_findIdx_eq.mpr ⟨List.idxOf_lt_length_iff.mpr spelled, rfl⟩

/-- No symbol of any other character has a value. -/
theorem symbolValue?_of_stray {c : Char} (stray : c.toUpper ∉ alphabet) {byte : UInt8}
    (member : byte ∈ String.utf8EncodeChar c) : symbolValue? (capital byte) = none := by
  by_cases ascii : c.toNat < 128
  · rw [Bytes.utf8EncodeChar_of_ascii ascii, List.mem_singleton] at member
    rw [member, (ascii_symbol ascii).2, List.idxOf?_eq_none_iff]
    exact stray
  · exact (high_symbol (Bytes.high_of_mem_utf8EncodeChar (Nat.le_of_not_lt ascii) member)).2

/-- The symbols of a text of the alphabet, one for each mark. -/
theorem symbols_of_spelled (spelled : Spelled text) :
    symbols text = (marks text).map fun c => capital (UInt8.ofNat c.toNat) := by
  rw [symbols_eq, Bytes.ofChars_of_ascii fun c member => ascii_of_spelled (spelled c member),
    List.map_map]
  rfl

end Symbols

section Values

variable {values : List Nat}

/-- Where every symbol that is looked at has a value, the values are regrouped into bytes, if these
are neither too few nor too many. -/
theorem decode_of_values (read : (dropSurplus (symbols text)).mapM symbolValue? = some values) :
    decode text =
      if 1 ≤ 5 * values.length / 8 ∧ 5 * values.length / 8 ≤ maxLength then .ok (regroup values)
      else .error .malformedSecret := by
  simp only [decode, read, regroup, length_bigEndian]

/-- The whole bytes of a sequence of values are the first bits of their bit string. -/
theorem bits_regroup (small : ∀ value ∈ values, value < 2 ^ 5) :
    (regroup values).bits =
      (values.flatMap (bits 5)).take (8 * (5 * values.length / 8)) := by
  have grouped := bits_foldl small 0 0
  rw [Nat.zero_add] at grouped
  have rest : 5 * values.length - 8 * (5 * values.length / 8) = 5 * values.length % 8 := by omega
  calc (regroup values).bits
      = bits (8 * (5 * values.length / 8)) (ofValues values >>> (5 * values.length % 8)) :=
        bits_bigEndian _ _
    _ = (bits (5 * values.length) (ofValues values)).take (8 * (5 * values.length / 8)) := by
        rw [take_bits (Nat.mul_div_le _ _), rest]
    _ = (values.flatMap (bits 5)).take (8 * (5 * values.length / 8)) :=
        congrArg (List.take _) grouped

/-- A value takes five bits. -/
theorem value_lt {c : Char} (spelled : c.toUpper ∈ alphabet) : value c < 2 ^ 5 :=
  List.idxOf_lt_length_iff.mpr spelled

/-- Characters of the alphabet, in either case, are read as their values. -/
theorem mapM_symbolValue? {chars : List Char} (spelled : ∀ c ∈ chars, c.toUpper ∈ alphabet) :
    (chars.map fun c => capital (UInt8.ofNat c.toNat)).mapM symbolValue? =
      some (chars.map value) := by
  induction chars with
  | nil => rfl
  | cons c rest ih =>
    rw [List.map_cons, List.mapM_cons, symbolValue?_of_spelled (spelled c List.mem_cons_self),
      ih fun other member => spelled other (List.mem_cons_of_mem c member)]
    rfl

/-- The values that are read from a text of the alphabet. -/
theorem values_of_spelled (spelled : Spelled text) :
    (dropSurplus (symbols text)).mapM symbolValue? =
      some (((marks text).take (kept (marks text).length)).map value) := by
  rw [dropSurplus_eq_take, symbols_of_spelled spelled, List.length_map, ← List.map_take]
  exact mapM_symbolValue? fun c member => spelled c (List.mem_of_mem_take member)

/-- The whole bytes of a text of the alphabet are among the symbols that are kept. -/
theorem take_kept (marks : List Char) :
    (((marks.take (kept marks.length)).map value).flatMap (bits 5)).take
        (8 * (5 * marks.length / 8)) =
      (marks.flatMap fun c => bits 5 (value c)).take (8 * (5 * marks.length / 8)) := by
  have width : ∀ chars : List Char,
      (chars.flatMap fun c => bits 5 (value c)).length = 5 * chars.length := by
    intro chars
    induction chars with
    | nil => rfl
    | cons c rest ih =>
      rw [List.flatMap_cons, List.length_append, ih, length_bits, List.length_cons]
      omega
  have looked : (marks.take (kept marks.length)).length = kept marks.length :=
    List.length_take_of_le (kept_le _)
  have enough : 8 * (5 * marks.length / 8) ≤ 5 * kept marks.length := by
    rw [← kept_bytes]
    exact Nat.mul_div_le _ _
  have split : (marks.flatMap fun c => bits 5 (value c)) =
      ((marks.take (kept marks.length)).flatMap fun c => bits 5 (value c)) ++
        ((marks.drop (kept marks.length)).flatMap fun c => bits 5 (value c)) := by
    rw [← List.flatMap_append, List.take_append_drop]
  rw [split, List.take_append_of_le_length (by rw [width, looked]; exact enough),
    List.flatMap_map]

/-- What a text of the alphabet stands for. -/
theorem decode_of_spelled (spelled : Spelled text) :
    let length := 5 * (marks text).length / 8
    (1 ≤ length ∧ length ≤ maxLength →
      ∃ key, decode text = .ok key ∧ key.length = length ∧
        key.bits = ((marks text).flatMap fun c => bits 5 (value c)).take (8 * length)) ∧
    (¬(1 ≤ length ∧ length ≤ maxLength) → decode text = .error .malformedSecret) := by
  intro length
  have decoded := decode_of_values (values_of_spelled spelled)
  have size : 5 * (((marks text).take (kept (marks text).length)).map value).length / 8 =
      length := by
    rw [List.length_map, List.length_take_of_le (kept_le _), kept_bytes]
  rw [size] at decoded
  refine ⟨fun fits => ⟨_, decoded.trans (if_pos fits), ?_, ?_⟩,
    fun unfit => decoded.trans (if_neg unfit)⟩
  · rw [regroup, length_bigEndian, size]
  · rw [bits_regroup, size]
    · exact take_kept (marks text)
    · intro number member
      obtain ⟨c, among, rfl⟩ := List.mem_map.mp member
      exact value_lt (spelled c (List.mem_of_mem_take among))

end Values

section Encoding

/-- The symbols of a number are in the alphabet. -/
theorem mem_alphabet_of_mem_digits {count number : Nat} {c : Char}
    (member : c ∈ digits count number) : c ∈ alphabet := by
  have symbol : ∀ group : Fin 32, alphabet.getD group 'A' ∈ alphabet := by decide +kernel
  induction count generalizing number with
  | zero => cases member
  | succ count ih =>
    rw [digits, List.mem_append, List.mem_singleton] at member
    rcases member with front | rfl
    · exact ih front
    · exact symbol ⟨number % 32, Nat.mod_lt _ (by decide)⟩

/-- As many symbols are written as there are groups of bits. -/
theorem length_digits (count number : Nat) : (digits count number).length = count := by
  induction count generalizing number with
  | zero => rfl
  | succ count ih => rw [digits, List.length_append, ih, List.length_singleton]

/-- Every symbol holds five bits of the number. -/
theorem bits_digits (count number : Nat) :
    ((digits count number).flatMap fun c => bits 5 (alphabet.idxOf c)) =
      bits (5 * count) number := by
  have symbol : ∀ group : Fin 32, alphabet.idxOf (alphabet.getD group 'A') = group := by
    decide +kernel
  induction count generalizing number with
  | zero => rfl
  | succ count ih =>
    have last : bits 5 (alphabet.idxOf (alphabet.getD (number % 32) 'A')) = bits 5 number := by
      rw [symbol ⟨number % 32, Nat.mod_lt _ (by decide)⟩]
      exact bits_mod 5 number
    have group : number / 32 = number / 2 ^ 5 := rfl
    rw [digits, List.flatMap_append, ih, List.flatMap_singleton, last, Nat.mul_succ, bits_add, group]

/-- A byte string is read back from every rendering of its encoding. -/
theorem decode_of_rendering {key : Bytes} (filled : 1 ≤ key.length) (fits : key.length ≤ maxLength)
    (rendered : (marks text).map Char.toUpper = encode key) : decode text = .ok key := by
  have spelled : Spelled text := fun c member =>
    mem_alphabet_of_mem_digits (rendered ▸ List.mem_map_of_mem member)
  have count : (marks text).length = (8 * key.length + 4) / 5 := by
    rw [← List.length_map (f := Char.toUpper), rendered, encode, length_digits]
  have size : 5 * (marks text).length / 8 = key.length := by omega
  obtain ⟨decoded, decodes, length, held⟩ :=
    (decode_of_spelled spelled).1 (by rw [size]; exact ⟨filled, fits⟩)
  have string : ((marks text).flatMap fun c => bits 5 (value c)) =
      bits (5 * ((8 * key.length + 4) / 5)) (ofBigEndian key <<<
        (5 * ((8 * key.length + 4) / 5) - 8 * key.length)) := by
    rw [← bits_digits, ← encode, ← rendered, List.flatMap_map]
    rfl
  rw [size] at length held
  have same : decoded.bits = key.bits := by
    rw [held, string, take_bits (by omega), Nat.shiftLeft_shiftRight, Bytes.bits_eq]
  rw [decodes, Bytes.bits_inj length same]

example : encode (Bytes.ofText "foobar") = "MZXW6YTBOI".toList := by decide +kernel

end Encoding

/-- A text of the alphabet stands for the whole bytes of its bit string, if they are at least one
and at most 64, and a byte string of that length is read back from every rendering of its
encoding. -/
theorem decode_base32 :
    (∀ text, Spelled text →
      let length := 5 * (marks text).length / 8
      (1 ≤ length ∧ length ≤ maxLength →
        ∃ key, decode text = .ok key ∧ key.length = length ∧
          key.bits = ((marks text).flatMap fun c => bits 5 (value c)).take (8 * length)) ∧
      (¬(1 ≤ length ∧ length ≤ maxLength) → decode text = .error .malformedSecret)) ∧
    ∀ (key : Bytes) (text : String), 1 ≤ key.length → key.length ≤ maxLength →
      (marks text).map Char.toUpper = encode key → decode text = .ok key :=
  ⟨fun _ spelled => decode_of_spelled spelled,
    fun _ _ filled fits rendered => decode_of_rendering filled fits rendered⟩

/-- Thirteen symbols with a blank and two renderings of one secret. -/
theorem decode_base32_typed :
    (∃ key, decode "jbsw Y3DPehpk3" = .ok key ∧ key.length = 8 ∧
      key.bits = ((marks "jbsw Y3DPehpk3").flatMap fun c => bits 5 (value c)).take 64) ∧
    decode "MZXW6===" = .ok [0x66, 0x6f, 0x6f] ∧ decode "mz xw6" = .ok [0x66, 0x6f, 0x6f] :=
  ⟨(decode_base32.1 "jbsw Y3DPehpk3" (by decide +kernel)).1 (by decide +kernel),
    decode_base32.2 [0x66, 0x6f, 0x6f] "MZXW6===" (by decide) (by decide) (by decide +kernel),
    decode_base32.2 [0x66, 0x6f, 0x6f] "mz xw6" (by decide) (by decide) (by decide +kernel)⟩

section Strays

/-- The last mark of a text is outside the alphabet, and is dropped without being looked at. -/
structure Overlooked (text : String) (front : List Char) (last : Char) : Prop where
  marked : marks text = front ++ [last]
  spelled : ∀ c ∈ front, c.toUpper ∈ alphabet
  stray : last.toUpper ∉ alphabet
  ascii : last.toNat < 128
  surplus : (front.length + 1) % 8 ∈ [1, 3, 6]

/-- One symbol without a value among those that are looked at is enough. -/
theorem decode_of_unread {byte : UInt8} (looked : byte ∈ dropSurplus (symbols text))
    (unread : symbolValue? byte = none) : decode text = .error .malformedSecret := by
  have none_of_mem : ∀ symbols : Bytes, byte ∈ symbols → symbols.mapM symbolValue? = none := by
    intro symbols member
    induction symbols with
    | nil => cases member
    | cons symbol rest ih =>
      rw [List.mapM_cons]
      rcases List.mem_cons.mp member with rfl | among
      · rw [unread]
        rfl
      · rw [ih among]
        cases symbolValue? symbol <;> rfl
  rw [decode, none_of_mem _ looked]

/-- At most the last symbol is dropped. -/
theorem mem_dropSurplus {front back : Bytes} {byte : UInt8} (member : byte ∈ front)
    (followed : back ≠ []) : byte ∈ dropSurplus (front ++ back) := by
  unfold dropSurplus
  split
  · rw [List.dropLast_append_of_ne_nil followed]
    exact List.mem_append_left _ member
  · exact List.mem_append_left _ member

/-- A stray in front of another mark is looked at. -/
theorem decode_of_stray_before {front back : List Char} {stray : Char}
    (marked : marks text = front ++ back) (member : stray ∈ front) (followed : back ≠ [])
    (outside : stray.toUpper ∉ alphabet) : decode text = .error .malformedSecret := by
  obtain ⟨byte, first⟩ := List.exists_mem_of_ne_nil _ (String.utf8EncodeChar_ne_nil (c := stray))
  have listed : capital byte ∈ (Bytes.ofChars front).map capital :=
    List.mem_map_of_mem (List.mem_flatMap.mpr ⟨stray, member, first⟩)
  have more : (Bytes.ofChars back).map capital ≠ [] := by
    obtain ⟨c, rest, rfl⟩ := List.exists_cons_of_ne_nil followed
    simp [String.utf8EncodeChar_ne_nil]
  refine decode_of_unread ?_ (symbolValue?_of_stray outside first)
  rw [symbols_eq, marked, Bytes.ofChars, List.flatMap_append, List.map_append]
  exact mem_dropSurplus listed more

/-- A stray of several bytes is looked at, also at the end. -/
theorem decode_of_wide_stray {front : List Char} {last : Char}
    (marked : marks text = front ++ [last]) (outside : last.toUpper ∉ alphabet)
    (beyond : 128 ≤ last.toNat) : decode text = .error .malformedSecret := by
  have size : 2 ≤ (String.utf8EncodeChar last).length := by
    rw [String.length_utf8EncodeChar, Char.utf8Size]
    split
    next narrow => exact absurd (show last.toNat ≤ 0x7f from narrow) (by omega)
    next =>
      split
      next => exact Nat.le_refl 2
      next => split <;> decide
  match encoded : String.utf8EncodeChar last, size with
  | byte :: next :: more, _ =>
    have first : byte ∈ String.utf8EncodeChar last := by simp [encoded]
    refine decode_of_unread ?_ (symbolValue?_of_stray outside first)
    have arranged : symbols text = ((Bytes.ofChars front).map capital ++ [capital byte]) ++
        (next :: more).map capital := by
      rw [symbols_eq, marked, Bytes.ofChars, List.flatMap_append, List.flatMap_singleton, encoded]
      simp [Bytes.ofChars]
    rw [arranged]
    exact mem_dropSurplus (by simp) (by simp)

/-- The symbols of a text of ASCII marks, the last one set apart. -/
theorem symbols_of_ascii {front : List Char} {last : Char} (marked : marks text = front ++ [last])
    (spelled : ∀ c ∈ front, c.toUpper ∈ alphabet) (ascii : last.toNat < 128) :
    symbols text = (front.map fun c => capital (UInt8.ofNat c.toNat)) ++
      [capital (UInt8.ofNat last.toNat)] := by
  have narrow : ∀ c ∈ front ++ [last], c.toNat < 128 := by
    intro c member
    rcases List.mem_append.mp member with among | final
    · exact ascii_of_spelled (spelled c among)
    · rwa [List.mem_singleton.mp final]
  rw [symbols_eq, marked, Bytes.ofChars_of_ascii narrow, List.map_map, List.map_append]
  rfl

/-- Without the stray that is overlooked, the text stands for the same. -/
theorem Overlooked.dropSurplus_symbols {front : List Char} {last : Char}
    (overlooked : Overlooked text front last) :
    dropSurplus (symbols text) = dropSurplus (symbols (String.ofList front)) := by
  have marked : marks (String.ofList front) = front := by
    have counted : ∀ c ∈ front, (!isFiller c) = true := by
      intro c member
      have among : c ∈ marks text := overlooked.marked ▸ List.mem_append_left [last] member
      exact (List.mem_filter.mp among).2
    rw [marks, String.toList_ofList]
    exact List.filter_eq_self.mpr counted
  have spelled : Spelled (String.ofList front) := by
    rw [Spelled, marked]
    exact overlooked.spelled
  have surplus := overlooked.surplus
  have complete : front.length % 8 ∉ [1, 3, 6] := by
    simp only [List.mem_cons, List.not_mem_nil, or_false] at surplus ⊢
    omega
  rw [symbols_of_ascii overlooked.marked overlooked.spelled overlooked.ascii,
    symbols_of_spelled spelled, marked, dropSurplus, dropSurplus, if_pos (by simpa using surplus),
    if_neg (by simpa using complete), List.dropLast_concat]

/-- A text with a stray is refused, unless the stray is overlooked: then the text stands for what
its other marks stand for, and a slot is programmed as if the stray were not there. -/
theorem decode_of_stray (text : String) (strays : ∃ c ∈ marks text, c.toUpper ∉ alphabet) :
    (∀ front last, Overlooked text front last →
      decode text = decode (String.ofList front) ∧
      ∀ (σ : Type) [Vault σ] (number : Nat), Device.programSecret (σ := σ) number text =
        Device.programSecret number (String.ofList front)) ∧
    ((¬∃ front last, Overlooked text front last) → decode text = .error .malformedSecret) := by
  constructor
  · intro front last overlooked
    have same : decode text = decode (String.ofList front) := by
      rw [decode, decode, overlooked.dropSurplus_symbols]
    refine ⟨same, fun σ vault number => ?_⟩
    simp only [Device.programSecret, Device.installText, same]
  · intro seen
    obtain ⟨stray, member, outside⟩ := strays
    have marked := (List.dropLast_concat_getLast (List.ne_nil_of_mem member)).symm
    generalize (marks text).dropLast = front, (marks text).getLast _ = last at marked
    by_cases spelled : ∀ c ∈ front, c.toUpper ∈ alphabet
    · have final : last.toUpper ∉ alphabet := by
        rcases List.mem_append.mp (marked ▸ member) with among | only
        · exact absurd (spelled stray among) outside
        · rwa [← List.mem_singleton.mp only]
      by_cases ascii : last.toNat < 128
      · have read := symbols_of_ascii marked spelled ascii
        have complete : (front.length + 1) % 8 ∉ [1, 3, 6] := fun surplus =>
          seen ⟨front, last, marked, spelled, final, ascii, surplus⟩
        have whole : dropSurplus (symbols text) = symbols text :=
          if_neg (by rw [read]; simpa using complete)
        have only : UInt8.ofNat last.toNat ∈ String.utf8EncodeChar last := by
          simp [Bytes.utf8EncodeChar_of_ascii ascii]
        refine decode_of_unread ?_ (symbolValue?_of_stray final only)
        rw [whole, read]
        exact List.mem_append_right _ (List.mem_singleton_self _)
      · exact decode_of_wide_stray marked final (Nat.le_of_not_lt ascii)
    · obtain ⟨c, among, foreign⟩ : ∃ c ∈ front, c.toUpper ∉ alphabet := by simpa using spelled
      exact decode_of_stray_before marked among (List.cons_ne_nil _ _) foreign

/-- The exclamation mark is the ninth symbol and completes no byte. -/
theorem decode_of_stray_ninth :
    (∃ c ∈ marks "GEZDGNBV!", c.toUpper ∉ alphabet) ∧
    decode "GEZDGNBV!" = decode (String.ofList "GEZDGNBV".toList) ∧
    decode (String.ofList "GEZDGNBV".toList) = .ok [0x31, 0x32, 0x33, 0x34, 0x35] ∧
    decode "GEZD!" = .error .malformedSecret := by
  have foreign : '!'.toUpper ∉ alphabet := by decide +kernel
  have strays : ∃ c ∈ marks "GEZDGNBV!", c.toUpper ∉ alphabet := ⟨'!', by decide +kernel, foreign⟩
  have spelled : ("GEZDGNBV".toList.all fun c => c.toUpper ∈ alphabet) = true := by decide +kernel
  have overlooked : Overlooked "GEZDGNBV!" "GEZDGNBV".toList '!' :=
    ⟨by decide +kernel, fun c member => of_decide_eq_true (List.all_eq_true.mp spelled c member),
      foreign, by decide, by decide +kernel⟩
  refine ⟨strays, ((decode_of_stray _ strays).1 _ _ overlooked).1, rfl, ?_⟩
  refine (decode_of_stray "GEZD!" ⟨'!', by decide +kernel, foreign⟩).2 ?_
  rintro ⟨front, last, other⟩
  have length := congrArg List.length other.marked
  have marked : (marks "GEZD!").length = 5 := by decide +kernel
  rw [marked, List.length_append, List.length_singleton] at length
  exact absurd other.surplus (by rw [← length]; decide)

end Strays

end Secret

end OtpToken
