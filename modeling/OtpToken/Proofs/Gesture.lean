import Mathlib.Data.List.SplitBy
import OtpToken.Proofs.Script

/-!
# Gestures in lines

A line stands for a gesture if and only if it has two words, of which the first names what is done
and the second is a numeral with room in 64 bits (`Gesture.ofLine?_eq_some_iff`). Two words are all
there is to a text between its blanks (`words_eq_pair_iff`), and a numeral is decimal digits behind
an optional plus sign (`Numeral.read_eq_ok_iff`). The lines of a text are taken one by one, up to
the first that stands for a gesture (`takeGesture_lines`).
-/

namespace OtpToken

/-- Nothing but blanks. -/
def IsGap (part : List Char) : Prop := ∀ c ∈ part, isBlank c = true

-- The instance goes through the list; all characters would be tried otherwise.
instance (part : List Char) : Decidable (IsGap part) := List.decidableBAll _ part

/-- One or more characters without a blank among them. -/
def IsWord (part : List Char) : Prop := part ≠ [] ∧ ∀ c ∈ part, isBlank c = false

instance (part : List Char) : Decidable (IsWord part) :=
  @instDecidableAnd _ _ inferInstance (List.decidableBAll _ part)

/-- A text that a word may stand before: it is empty or begins with a blank. -/
def BeginsBlank (text : List Char) : Prop := ∀ c ∈ text.head?, isBlank c = true

section Words

variable {text word front rest : List Char}

/-- A gap begins with a blank, or is empty. -/
theorem IsGap.beginsBlank (gap : IsGap text) : BeginsBlank text :=
  fun c first => gap c (List.mem_of_mem_head? first)

/-- Characters that are not blank are added to the word that has been begun. -/
theorem wordsAfter_append (free : ∀ c ∈ front, isBlank c = false) (part : List Char) :
    wordsAfter part (front ++ rest) = wordsAfter (front.reverse ++ part) rest := by
  induction front generalizing part with
  | nil => rfl
  | cons c front ih =>
    have own : ¬isBlank c = true := by simp [free c List.mem_cons_self]
    rw [List.cons_append, wordsAfter, if_neg own,
      ih fun d member => free d (List.mem_cons_of_mem _ member), List.reverse_cons,
      List.append_assoc, List.singleton_append]

/-- Blanks before a text do not matter. -/
theorem words_gap (gap : IsGap front) : words (front ++ rest) = words rest := by
  induction front with
  | nil => rfl
  | cons c front ih =>
    rw [words, List.cons_append, wordsAfter, if_pos (gap c List.mem_cons_self), if_pos rfl]
    exact ih fun d member => gap d (List.mem_cons_of_mem _ member)

/-- A gap has no words. -/
theorem words_of_gap (gap : IsGap text) : words text = [] := by
  have alone : words (text ++ []) = words [] := words_gap gap
  rwa [List.append_nil] at alone

/-- A word that nothing or a blank stands behind is the first. -/
theorem words_word (isWord : IsWord word) (behind : BeginsBlank rest) :
    words (word ++ rest) = word :: words rest := by
  have kept : word.reverse ≠ [] := by simpa using isWord.1
  rw [words, wordsAfter_append isWord.2, List.append_nil]
  cases rest with
  | nil => rw [wordsAfter, if_neg kept, List.reverse_reverse, words, wordsAfter, if_pos rfl]
  | cons c rest =>
    have blank := behind c rfl
    rw [wordsAfter, if_pos blank, if_neg kept, List.reverse_reverse, words, wordsAfter,
      if_pos blank, if_pos rfl]

/-- A text is blank, or there is a first word in it. -/
theorem exists_first_word (text : List Char) :
    IsGap text ∨ ∃ front word rest, text = front ++ (word ++ rest) ∧ IsGap front ∧ IsWord word ∧
      BeginsBlank rest := by
  induction text with
  | nil => exact .inl nofun
  | cons c text ih =>
    cases blank : isBlank c with
    | true =>
      rcases ih with gap | ⟨front, word, rest, rfl, gap, isWord, behind⟩
      · exact .inl (List.forall_mem_cons.mpr ⟨blank, gap⟩)
      · exact .inr ⟨c :: front, word, rest, rfl, List.forall_mem_cons.mpr ⟨blank, gap⟩, isWord,
          behind⟩
    | false =>
      -- The character begins the first word, which is longer if no blank follows.
      have alone : IsWord [c] := ⟨List.cons_ne_nil _ _, by simpa using blank⟩
      rcases ih with gap | ⟨front, word, rest, rfl, gap, isWord, behind⟩
      · exact .inr ⟨[], [c], text, rfl, nofun, alone, gap.beginsBlank⟩
      · cases front with
        | nil =>
          exact .inr ⟨[], c :: word, rest, rfl, nofun,
            ⟨List.cons_ne_nil _ _, List.forall_mem_cons.mpr ⟨blank, isWord.2⟩⟩, behind⟩
        | cons first front =>
          refine .inr ⟨[], [c], _, rfl, nofun, alone, ?_⟩
          rintro _ ⟨rfl⟩
          exact gap first List.mem_cons_self

/-- The first word of a text, and what there is before it and behind it. -/
theorem split_of_words {others : List (List Char)} (whole : words text = word :: others) :
    ∃ front rest, text = front ++ (word ++ rest) ∧ IsGap front ∧ IsWord word ∧ BeginsBlank rest ∧
      words rest = others := by
  rcases exists_first_word text with gap | ⟨front, first, rest, rfl, gap, isWord, behind⟩
  · rw [words_of_gap gap] at whole
    cases whole
  · rw [words_gap gap, words_word isWord behind] at whole
    cases whole
    exact ⟨front, rest, rfl, gap, isWord, behind, rfl⟩

/-- Only a gap has no words. -/
theorem words_eq_nil_iff : words text = [] ↔ IsGap text := by
  refine ⟨fun none => ?_, words_of_gap⟩
  rcases exists_first_word text with gap | ⟨front, word, rest, rfl, gap, isWord, behind⟩
  · exact gap
  · rw [words_gap gap, words_word isWord behind] at none
    cases none

/-- A text of two words consists of them, with blanks between them and perhaps around them. -/
theorem words_eq_pair_iff {first second : List Char} :
    words text = [first, second] ↔ IsWord first ∧ IsWord second ∧
      ∃ before between behind, IsGap before ∧ IsGap between ∧ between ≠ [] ∧ IsGap behind ∧
        text = before ++ (first ++ (between ++ (second ++ behind))) := by
  constructor
  · intro two
    obtain ⟨before, rest, rfl, gapBefore, isFirst, apart, one⟩ := split_of_words two
    obtain ⟨between, behind, rfl, gapBetween, isSecond, _, none⟩ := split_of_words one
    refine ⟨isFirst, isSecond, before, between, behind, gapBefore, gapBetween, ?_,
      words_eq_nil_iff.mp none, rfl⟩
    rintro rfl
    obtain ⟨c, tail, rfl⟩ := List.exists_cons_of_ne_nil isSecond.1
    have blank : isBlank c = true := apart c rfl
    rw [isSecond.2 c List.mem_cons_self] at blank
    cases blank
  · rintro ⟨isFirst, isSecond, before, between, behind, gapBefore, gapBetween, some, gapBehind, rfl⟩
    obtain ⟨c, tail, rfl⟩ := List.exists_cons_of_ne_nil some
    have apart : BeginsBlank (c :: tail ++ (second ++ behind)) := by
      rintro _ ⟨rfl⟩
      exact gapBetween c List.mem_cons_self
    rw [words_gap gapBefore, words_word isFirst apart, words_gap gapBetween,
      words_word isSecond gapBehind.beginsBlank, words_of_gap gapBehind]

end Words

namespace Numeral

/-- A numeral of a number: its decimal digits, of which there may be leading zeros, behind an
optional plus sign. -/
structure Denotes (number : List Char) (value : Nat) : Prop where
  digits : ∃ digits, (number = digits ∨ number = '+' :: digits) ∧ digits ≠ [] ∧
    (∀ c ∈ digits, c.isDigit = true) ∧ Nat.ofDigitChars 10 digits 0 = value
  fits : value < UInt64.size

/-- A character stands for a digit exactly if it is one, and then for the one that its place after 0
gives. -/
theorem digit?_eq_some_iff {c : Char} {digit : Nat} :
    digit? c = some digit ↔ c.isDigit = true ∧ c.toNat - '0'.toNat = digit := by
  have inside : ('0' ≤ c ∧ c ≤ '9') ↔ c.isDigit = true := by
    rw [Char.isDigit_iff_toNat, Char.le_def, Char.le_def, UInt32.le_iff_toNat_le,
      UInt32.le_iff_toNat_le]
    rfl
  simp only [digit?, inside, Option.ite_none_right_eq_some, Option.some.injEq]

/-- More digits make a number no smaller. -/
theorem le_ofDigitChars (digits : List Char) (value : Nat) :
    value ≤ Nat.ofDigitChars 10 digits value := by
  rw [Nat.ofDigitChars_eq_ofDigitChars_zero]
  exact Nat.le_add_right_of_le (Nat.le_mul_of_pos_left value (Nat.pow_pos (by decide)))

/-- No digit that is read leads past 64 bits if the number that they all denote does not. -/
theorem readDigits_eq_ok_iff {digits : List Char} {start value : Nat}
    (small : start < UInt64.size) :
    readDigits start digits = .ok value ↔
      (∀ c ∈ digits, c.isDigit = true) ∧ Nat.ofDigitChars 10 digits start = value ∧
        value < UInt64.size := by
  induction digits generalizing start with
  | nil =>
    rw [readDigits, Except.ok.injEq, Nat.ofDigitChars_nil]
    constructor
    · rintro rfl
      exact ⟨nofun, rfl, small⟩
    · exact fun denotes => denotes.2.1
  | cons c digits ih =>
    rw [readDigits, List.forall_mem_cons, Nat.ofDigitChars_cons]
    cases read : digit? c with
    | none =>
      have other : ¬c.isDigit = true := by
        intro isDigit
        rw [digit?_eq_some_iff.mpr ⟨isDigit, rfl⟩] at read
        cases read
      simp only [other, false_and, reduceCtorEq]
    | some digit =>
      obtain ⟨isDigit, rfl⟩ := digit?_eq_some_iff.mp read
      dsimp only
      by_cases fits : 10 * start + (c.toNat - '0'.toNat) < UInt64.size
      · rw [if_pos fits, ih fits]
        simp only [isDigit, true_and]
      · rw [if_neg fits]
        refine ⟨nofun, fun ⟨_, denoted, bound⟩ => absurd ?_ fits⟩
        exact Nat.lt_of_le_of_lt (le_ofDigitChars digits _) (denoted ▸ bound)

/-- What is read as a number is a numeral of it. -/
theorem read_eq_ok_iff {number : List Char} {value : Nat} :
    read number = .ok value ↔ Denotes number value := by
  have plus : '+'.isDigit = false := rfl
  constructor
  · fun_cases read number with
    | case1 => nofun
    | case2 => nofun
    | case3 digits more =>
      intro taken
      obtain ⟨all, denoted, fits⟩ := (readDigits_eq_ok_iff (by decide)).mp taken
      exact ⟨⟨digits, .inr rfl, more, all, denoted⟩, fits⟩
    | case4 _ nonempty _ _ =>
      intro taken
      obtain ⟨all, denoted, fits⟩ := (readDigits_eq_ok_iff (by decide)).mp taken
      exact ⟨⟨number, .inl rfl, nonempty, all, denoted⟩, fits⟩
  · rintro ⟨⟨digits, spelled, some, all, denoted⟩, fits⟩
    have value : readDigits 0 digits = .ok value :=
      (readDigits_eq_ok_iff (by decide)).mpr ⟨all, denoted, fits⟩
    obtain ⟨c, rest, rfl⟩ := List.exists_cons_of_ne_nil some
    rcases spelled with rfl | rfl
    · have signless : c ≠ '+' := by
        rintro rfl
        exact absurd (all _ List.mem_cons_self) (by simp [plus])
      rw [← value]
      unfold read
      split <;> simp_all
    · exact value

end Numeral

namespace Gesture

/-- The word for what is done. -/
def verb : Gesture → String
  | press _ => "press"
  | hold _ => "hold"

/-- A gesture as a line of a script has it. -/
def text (gesture : Gesture) : String := gesture.verb ++ " " ++ toString gesture.button

variable {line : String} {gesture : Gesture}

/-- A line that has the verb of a gesture and a numeral of its button, with blanks between them and
perhaps around them, and nothing else. -/
def IsWrittenAs (gesture : Gesture) (line : String) : Prop :=
  ∃ before between number behind, IsGap before ∧ IsGap between ∧ between ≠ [] ∧ IsGap behind ∧
    Numeral.Denotes number gesture.button ∧
    line.toList = before ++ (gesture.verb.toList ++ (between ++ (number ++ behind)))

/-- A line stands for a gesture if its words are the verb and a numeral of the button. -/
theorem ofLine?_eq_some_iff_words :
    ofLine? line = some gesture ↔ ∃ number,
      words line.toList = [gesture.verb.toList, number] ∧
        Numeral.Denotes number gesture.button := by
  have apart : "hold".toList ≠ "press".toList := by decide
  simp only [← Numeral.read_eq_ok_iff]
  unfold ofLine?
  constructor
  · intro stands
    split at stands
    next verb number two =>
      split at stands
      next button read =>
        split at stands
        next pressed =>
          cases stands
          exact ⟨number, pressed ▸ two, read⟩
        next =>
          split at stands
          next held =>
            cases stands
            exact ⟨number, held ▸ two, read⟩
          next => cases stands
      next => cases stands
    next => cases stands
  · rintro ⟨number, two, read⟩
    rw [two]
    dsimp only
    rw [read]
    dsimp only
    cases gesture with
    | press button =>
      have pressed : (press button).verb = "press" := rfl
      rw [pressed, if_pos rfl]
      rfl
    | hold button =>
      have held : (hold button).verb = "hold" := rfl
      rw [held, if_neg apart, if_pos rfl]
      rfl

/-- The verb of a gesture is a word. -/
theorem isWord_verb (gesture : Gesture) : IsWord gesture.verb.toList := by
  cases gesture with
  | press => exact (by decide : IsWord "press".toList)
  | hold => exact (by decide : IsWord "hold".toList)

/-- A digit is not a blank. -/
theorem isBlank_of_isDigit {c : Char} (digit : c.isDigit = true) : isBlank c = false := by
  obtain ⟨low, high⟩ := Char.isDigit_iff_toNat.mp digit
  have lowest : '0'.toNat = 48 := rfl
  have highest : '9'.toNat = 57 := rfl
  simp only [isBlank, Bool.or_eq_false_iff, Bool.and_eq_false_iff, decide_eq_false_iff_not,
    beq_eq_false_iff_ne]
  omega

/-- A numeral has no blank in it. -/
theorem isWord_of_denotes {number : List Char} {value : Nat}
    (denotes : Numeral.Denotes number value) : IsWord number := by
  obtain ⟨digits, spelled, some, all, _⟩ := denotes.digits
  have free : ∀ c ∈ digits, isBlank c = false := fun c member => isBlank_of_isDigit (all c member)
  rcases spelled with rfl | rfl
  · exact ⟨some, free⟩
  · exact ⟨List.cons_ne_nil _ _, List.forall_mem_cons.mpr ⟨rfl, free⟩⟩

/-- A line stands for a gesture if and only if the gesture is written as this line. -/
theorem ofLine?_eq_some_iff : ofLine? line = some gesture ↔ gesture.IsWrittenAs line := by
  rw [ofLine?_eq_some_iff_words]
  constructor
  · rintro ⟨number, two, denotes⟩
    obtain ⟨_, _, before, between, behind, gapBefore, gapBetween, some, gapBehind, whole⟩ :=
      words_eq_pair_iff.mp two
    exact ⟨before, between, number, behind, gapBefore, gapBetween, some, gapBehind, denotes, whole⟩
  · rintro ⟨before, between, number, behind, gapBefore, gapBetween, some, gapBehind, denotes, whole⟩
    exact ⟨number, words_eq_pair_iff.mpr ⟨isWord_verb gesture, isWord_of_denotes denotes, before,
      between, behind, gapBefore, gapBetween, some, gapBehind, whole⟩, denotes⟩

/-- The decimal digits of a number are a numeral of it. -/
theorem denotes_toString {value : Nat} (fits : value < UInt64.size) :
    Numeral.Denotes (toString value).toList value := by
  have digits : (toString value).toList = Nat.toDigits 10 value := Nat.toList_repr
  rw [digits]
  have all : ∀ c ∈ Nat.toDigits 10 value, c.isDigit = true := fun c member =>
    Nat.isDigit_of_mem_toDigits (by decide) (by decide) member
  exact ⟨⟨_, .inl rfl, Nat.toDigits_ne_nil, all, Nat.ofDigitChars_ten_toDigits⟩, fits⟩

/-- A gesture is written as its text, whatever blanks there are around it. -/
theorem isWrittenAs_text {before behind : List Char} (gapBefore : IsGap before)
    (gapBehind : IsGap behind) (fits : gesture.button < UInt64.size) :
    gesture.IsWrittenAs (String.ofList (before ++ (gesture.text.toList ++ behind))) := by
  refine ⟨before, " ".toList, (toString gesture.button).toList, behind, gapBefore, ?_, by decide,
    gapBehind, denotes_toString fits, ?_⟩
  · intro c member
    have space : c = ' ' := by simpa using member
    rw [space]
    rfl
  · rw [text, String.toList_ofList, String.toList_append, String.toList_append]
    simp only [List.append_assoc]

end Gesture

namespace Script

/-- The lines of a text, each with its line feed, which only the last may lack. -/
def lines (script : Script) : List Script := script.splitBy fun c _ => c != '\n'

/-- The lines of a script make up the script. -/
theorem flatten_lines (script : Script) : script.lines.flatten = script := List.flatten_splitBy _ _

/-- The first line of a script and what follows it make up the script. -/
theorem takeLine_append (script : Script) :
    (takeLine script).1 ++ (takeLine script).2 = script := by
  induction script with
  | nil => rfl
  | cons c rest ih =>
    unfold takeLine
    split
    · rfl
    · rw [List.cons_append, ih]

/-- A line has no line feed but at its end. -/
theorem isChain_takeLine (script : Script) :
    (takeLine script).1.IsChain fun c _ => (c != '\n') = true := by
  induction script with
  | nil => exact .nil
  | cons c rest ih =>
    unfold takeLine
    split
    next => exact .singleton c
    next other => exact List.isChain_cons.mpr ⟨fun _ _ => by simpa using other, ih⟩

/-- A line that something follows has its line feed. -/
theorem getLast?_takeLine {script : Script} (more : (takeLine script).2 ≠ []) :
    (takeLine script).1.getLast? = some '\n' := by
  induction script with
  | nil => exact absurd rfl more
  | cons c rest ih =>
    unfold takeLine at more ⊢
    split at more
    next feed => rw [if_pos feed, feed]; rfl
    next other =>
      rw [if_neg other, List.getLast?_cons, ih more]
      rfl

/-- The first line of a text is one of its lines, and the others are those of what follows it. -/
theorem lines_cons (c : Char) (rest : Script) :
    lines (c :: rest) = (takeLine (c :: rest)).1 :: lines (takeLine (c :: rest)).2 := by
  have nonempty : (takeLine (c :: rest)).1 ≠ [] := by
    unfold takeLine
    split <;> exact List.cons_ne_nil _ _
  conv_lhs => rw [lines, ← takeLine_append (c :: rest)]
  rw [List.splitBy_append, List.splitBy_of_isChain nonempty (isChain_takeLine _)]
  · rfl
  · intro last ends first begins
    have more : (takeLine (c :: rest)).2 ≠ [] := List.ne_nil_of_mem (List.mem_of_mem_head? begins)
    rw [getLast?_takeLine more] at ends
    cases ends
    rfl

end Script

/-- Lines are passed over up to the first that stands for a gesture, and nothing behind it is
taken. -/
theorem takeGesture_lines {script : Script} {passed rest : List Script} {line : Script}
    {gesture : Gesture} (whole : script.lines = passed ++ line :: rest)
    (other : ∀ text ∈ passed, Gesture.ofLine? (String.ofList text) = none)
    (stands : Gesture.ofLine? (String.ofList line) = some gesture) :
    takeGesture (Bytes.ofChars script) = (some gesture, Bytes.ofChars rest.flatten) := by
  induction passed generalizing script with
  | nil =>
    cases script with
    | nil => cases whole
    | cons c tail =>
      rw [Script.lines_cons, List.nil_append, List.cons.injEq] at whole
      obtain ⟨rfl, rfl⟩ := whole
      rw [takeGesture_of_some stands, Script.flatten_lines]
  | cons first passed ih =>
    cases script with
    | nil => cases whole
    | cons c tail =>
      rw [Script.lines_cons, List.cons_append, List.cons.injEq] at whole
      obtain ⟨rfl, others⟩ := whole
      rw [takeGesture_of_none (other _ List.mem_cons_self)]
      exact ih others fun text member => other text (List.mem_cons_of_mem _ member)

/-- Without a line that stands for a gesture, everything is passed over. -/
theorem takeGesture_of_no_line {script : Script}
    (other : ∀ line ∈ script.lines, Gesture.ofLine? (String.ofList line) = none) :
    takeGesture (Bytes.ofChars script) = (none, []) := by
  generalize whole : script.lines = lines at other
  induction lines generalizing script with
  | nil =>
    rw [← script.flatten_lines, whole, List.flatten_nil, Bytes.ofChars_nil, takeGesture]
  | cons first lines ih =>
    cases script with
    | nil => cases whole
    | cons c tail =>
      rw [Script.lines_cons, List.cons.injEq] at whole
      obtain ⟨rfl, others⟩ := whole
      rw [takeGesture_of_none (other _ List.mem_cons_self)]
      exact ih others fun line member => other line (List.mem_cons_of_mem _ member)

end OtpToken
