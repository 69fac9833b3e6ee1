import OtpToken.Proofs.Blocking.Deliver
import OtpToken.Proofs.Blocking.Release
import OtpToken.Proofs.Blocking.Supply

/-!
# Typed texts

The keyboard takes a text of printable ASCII, and no other and no empty one. What it types it
remembers as it was given, but no more than its memory holds, so that however many texts are
typed or refused the latest ones are shown in order (`typed_latest`). Codes are such texts, and
so they are always typed where there is a keyboard.
-/

namespace OtpToken

open Act Board

namespace Keyboard

/-- A text that can be typed: it is not empty, and its bytes are ASCII characters that can be printed,
or spaces. -/
def IsTypeable (text : String) : Prop :=
  text ≠ "" ∧ ∀ byte ∈ Bytes.ofText text, 0x20 ≤ byte ∧ byte ≤ 0x7e

instance (text : String) : Decidable (IsTypeable text) := inferInstanceAs (Decidable (_ ∧ _))

/-- The last texts of all, as many as are remembered. -/
def latest (texts : List String) : List String := texts.drop (texts.length - memory)

variable {text : String} {texts : List String}

/-- Only the empty text has no bytes. -/
theorem ofText_eq_nil_iff : Bytes.ofText text = [] ↔ text = "" := by
  rw [Bytes.ofText_eq_ofChars]
  constructor
  · intro none
    cases chars : text.toList with
    | nil => exact String.toList_eq_nil_iff.mp chars
    | cons c rest => simp [chars, String.utf8EncodeChar_ne_nil] at none
  · rintro rfl
    rfl

/-- A text can be typed if the keyboard is given something and finds it printable. -/
theorem isTypeable_iff : IsTypeable text ↔
    Bytes.ofText text ≠ [] ∧ (Bytes.ofText text).all isPrintable = true := by
  simp only [IsTypeable, ne_eq, ofText_eq_nil_iff, List.all_eq_true, isPrintable, Bool.and_eq_true,
    decide_eq_true_eq]

/-- The characters of a text that can be typed are ASCII characters. -/
theorem IsTypeable.ascii (typeable : IsTypeable text) : ∀ c ∈ text.toList, c.toNat < 128 := by
  intro c member
  by_contra beyond
  have beyond := Nat.le_of_not_lt beyond
  obtain ⟨byte, first⟩ := List.exists_mem_of_ne_nil _ (String.utf8EncodeChar_ne_nil (c := c))
  have inside : byte ∈ Bytes.ofText text := by
    rw [Bytes.ofText_eq_ofChars]
    exact List.mem_flatMap.mpr ⟨c, member, first⟩
  have low := (typeable.2 byte inside).2
  have high := Bytes.high_of_mem_utf8EncodeChar beyond first
  rw [UInt8.le_iff_toNat_le] at low
  have : (0x7e : UInt8).toNat = 126 := rfl
  omega

/-- The latest texts are all of them, or as many as the keyboard remembers. -/
theorem length_latest (texts : List String) : (latest texts).length = min texts.length memory := by
  rw [latest, List.length_drop]
  omega

/-- As many texts as the keyboard remembers are all latest ones. -/
theorem latest_of_short (short : texts.length ≤ memory) : latest texts = texts := by
  rw [latest, Nat.sub_eq_zero_of_le short, List.drop_zero]

/-- A text that is remembered is the latest one. -/
theorem remember_latest (text : String) (texts : List String) :
    remember text (latest texts) = latest (texts ++ [text]) := by
  rw [remember, length_latest]
  by_cases full : memory ≤ texts.length
  · have skipped : (texts ++ [text]).length - memory = texts.length - memory + 1 := by
      rw [List.length_append, List.length_singleton]
      omega
    rw [if_pos (Nat.min_eq_right full), latest, latest, List.drop_drop, skipped,
      List.drop_append_of_le_length (by simp only [memory] at full ⊢; omega)]
  · have short : (texts ++ [text]).length ≤ memory := by
      rw [List.length_append, List.length_singleton]
      omega
    rw [if_neg (by omega), latest_of_short (by omega), latest_of_short short]

/-- The keyboard does not come to remember more texts than it can. -/
theorem length_remember_le (text : String) {texts : List String} (short : texts.length ≤ memory) :
    (remember text texts).length ≤ memory := by
  rw [← latest_of_short short, remember_latest, length_latest]
  exact Nat.min_le_right _ _

end Keyboard

namespace Board

variable {board after : Board} {typed : List String} {job : Job}

/-- The keyboard is idle, and these are the texts that it shows. -/
structure ShowsTyped (board : Board) (typed : List String) : Prop where
  typed? : board.typed? = some typed
  idle : board.keyboard.bind Keyboard.due = none

/-- A board that shows what is typed has an idle keyboard, which shows it. -/
theorem ShowsTyped.exists_keyboard (shows : board.ShowsTyped typed) :
    ∃ keyboard, board.keyboard = some keyboard ∧ keyboard.due = none ∧ keyboard.typed = typed := by
  obtain ⟨keyboard, present, same⟩ := Option.map_eq_some_iff.mp shows.typed?
  have idle := shows.idle
  rw [present] at idle
  exact ⟨keyboard, present, idle, same⟩

/-- No command changes what has been typed, and only the one to type gives the keyboard work. -/
theorem Obeys.typed?_eq {command : Command Subscriber Nat} (obeys : board.Obeys command after) :
    after.typed? = board.typed? ∧ (command ≠ .start .typeText →
      after.keyboard.bind Keyboard.due = board.keyboard.bind Keyboard.due) := by
  cases obeys with
  | subscribe subscribes =>
    cases subscribes with
    | keyboard present => simp [typed?, present]
    | alarm | buttons | console | macUnit | keyValue => exact ⟨rfl, fun _ => rfl⟩
  | share shares =>
    cases shares with
    | text present => simp [typed?, present]
    | character | macKey | macData | macDestination | storedKey | storedValue
    | storedDestination => exact ⟨rfl, fun _ => rfl⟩
  | start undertakes =>
    cases undertakes with
    | typeText present => simp [typed?, present]
    | readCharacter | runMac | getValue | setValue => exact ⟨rfl, fun _ => rfl⟩
  | abortRead | chooseAlgorithm | armAlarm | cancelAlarm | allocateAlarm | keepAlarm | freeAlarm
  | setInterrupt | readButton | perform | setLight | print | putValue | refuseValue | peekValue
  | setReadOnly | ask => exact ⟨rfl, fun _ => rfl⟩

/-- A look for a stimulus does not touch the keyboard. -/
theorem keyboard_stimulated (board : Board) : board.stimulated.keyboard = board.keyboard := by
  by_cases idle : board.jobs = []
  · rw [stimulated, if_pos idle]
    have stimulates := stimulates_stimulate idle
    generalize board.stimulate.1 = found, board.stimulate.2 = after at stimulates
    cases stimulates <;> rfl
  · rw [stimulated_of_jobs idle]

/-- A yield leaves the keyboard as it is, or completes the text that it has been given. -/
theorem Sound.keyboard_yield (sound : board.Sound) (supplied : board.charge = none) :
    board.yield.2.keyboard = board.keyboard ∨
    ∃ keyboard due, board.keyboard = some keyboard ∧ keyboard.due = some due ∧
      board.yield.2.keyboard = some { keyboard with
        due := none
        typed := Keyboard.remember (Keyboard.textOf keyboard.buffer) keyboard.typed } := by
  rcases sound.yield (by simp [supplied]) with ⟨job, served, yielded, serves, _⟩ | ⟨yielded, _⟩
  · rw [yielded, ← keyboard_stimulated board]
    cases serves with
    | typing present busy => exact .inr ⟨_, _, present, busy, rfl⟩
    | ring | turn | receive | digest | access => exact .inl rfl
  · rw [yielded]
    exact .inl (keyboard_stimulated board)

/-- A yield with an idle keyboard leaves what it shows. -/
theorem ShowsTyped.yield (shows : board.ShowsTyped typed) (sound : board.Sound)
    (supplied : board.charge = none) : board.yield.2.ShowsTyped typed := by
  rcases sound.keyboard_yield supplied with kept | ⟨busy, due, present, working, _⟩
  · exact ⟨(congrArg (Option.map Keyboard.typed) kept).trans shows.typed?,
      (congrArg (Option.bind · Keyboard.due) kept).trans shows.idle⟩
  · have idle := shows.idle
    rw [present, Option.bind_some, working] at idle
    cases idle

/-- A keyboard never shows more texts than it remembers. -/
theorem Reachable.length_typed_le (reachable : board.Reachable) :
    ∀ typed, board.typed? = some typed → typed.length ≤ Keyboard.memory := by
  induction reachable with
  | initial store input buttons hasKeyboard =>
    intro typed shown
    cases hasKeyboard <;> cases shown
    exact Nat.zero_le _
  | obeyed _ _ accepted ih =>
    intro typed shown
    exact ih typed ((obeys_of_ok accepted).typed?_eq.1.symm.trans shown)
  | yielded reachable ih =>
    intro typed shown
    rcases reachable.sound.keyboard_yield reachable.supplied with kept | ⟨busy, _, here, _, left⟩
    · exact ih typed ((congrArg (Option.map Keyboard.typed) kept).symm.trans shown)
    · rw [Board.typed?, left] at shown
      cases shown
      exact Keyboard.length_remember_le _ (ih busy.typed (by rw [Board.typed?, here]; rfl))
  | drawn _ ih | enabled _ ih => exact ih

end Board

namespace BoardAct

variable {board : Board} {typed : List String} {text : String}

/-- Whichever way an act ends, a reachable board is left that is reachable. -/
theorem Roams.ending {α : Type} {act : BoardAct α} (roams : Roams 0 act)
    (reachable : board.Reachable) : (ending (act board)).Reachable := by
  have moves := roams board reachable (Nat.zero_le _)
  cases ran : act board with
  | ok | error =>
    rw [ran] at moves
    exact moves.reachable

/-- A text that can be typed is typed, which takes its time, and is shown last. -/
theorem typeText_of_typeable (live : board.Live) (shows : board.ShowsTyped typed)
    (typeable : Keyboard.IsTypeable text) :
    ∃ after, typeText text board = .ok () after ∧
      after.clock = board.clock +
        Keyboard.milliseconds * (Bytes.ofText text).length * tickFrequency / 1000 ∧
      after.ShowsTyped (Keyboard.remember text typed) := by
  obtain ⟨keyboard, present, idle, rfl⟩ := shows.exists_keyboard
  obtain ⟨nonempty, printable⟩ := Keyboard.isTypeable_iff.mp typeable
  have begins := live.sound.begun_beginTyping keyboard nonempty printable
  obtain ⟨served, mid, runs, absent, ⟨done, serves, _, _, awaited⟩ | ⟨spent, _⟩⟩ :=
    begins.awaitTaken live.fresh (registerText text) (by simp [typingJob, Task.source])
      (registerText_eq present idle nonempty printable)
  · have unit : mid.keyboard = (board.beginTyping keyboard (Bytes.ofText text)).keyboard :=
      runs.sameAt_of_only begins.only absent
    refine ⟨_, typeText_of_awaited unit serves awaited, serves.clock_eq, ?_, rfl⟩
    simp [Board.typed?, Keyboard.textOf_ofText typeable.ascii]
  · rw [runs.charge_eq_none (begins.charge.trans live.supplied)] at spent
    cases spent

/-- Any other text is refused at once, and what is shown stays. -/
theorem typeText_of_untypeable (shows : board.ShowsTyped typed)
    (untypeable : ¬Keyboard.IsTypeable text) :
    ∃ after, typeText text board =
        .error (.fault (.rejected (if text = "" then .reserve else .invalid))) after ∧
      after.clock = board.clock ∧ after.ShowsTyped typed := by
  obtain ⟨keyboard, present, idle, rfl⟩ := shows.exists_keyboard
  have unfit : Bytes.ofText text = [] ∨ (Bytes.ofText text).all Keyboard.isPrintable = false := by
    rw [Keyboard.isTypeable_iff, not_and, Bool.not_eq_true] at untypeable
    exact Classical.or_iff_not_imp_left.mpr untypeable
  have refused := typeText_of_unfit present idle unfit
  simp only [Keyboard.ofText_eq_nil_iff] at refused
  exact ⟨_, refused, rfl, rfl, idle⟩

/-- A code is always typed. -/
theorem deliver_of_truncate (live : board.Live) (shows : board.ShowsTyped typed) {digest : Digest}
    {digits : Nat} {code : Code} (cut : Code.truncate digest digits = .ok code)
    (counter : UInt64) : ∃ after, Delivery.deliver code counter board = .ok .keyboard after := by
  obtain ⟨keyboard, present, _, _⟩ := shows.exists_keyboard
  have typeable : Keyboard.IsTypeable code.text :=
    Keyboard.isTypeable_iff.mpr ⟨Code.ofText_text_ne_nil (Code.digits_pos cut),
      code.isPrintable_text⟩
  obtain ⟨after, ran, _⟩ := typeText_of_typeable live shows typeable
  have looked : look (·.keyboard.isNone) board = .ok false board := by
    rw [look, present]
    rfl
  refine ⟨after.printLine (Delivery.typedLine code counter), ?_⟩
  rw [Delivery.deliver, bind_of_ok looked]
  exact bind_of_ok ran

end BoardAct

namespace Board

open BoardAct

/-- A board has been given texts to type, by one call after another. In between it obeys commands,
yields and hands out tickets, as other calls ask for, but nobody else gives its keyboard work. -/
inductive Given (board : Board) : List String → Board → Prop
  | none : Given board [] board
  | text {texts : List String} {mid : Board} (given : Given board texts mid) (text : String) :
      Given board (texts ++ [text]) (ending (typeText text mid))
  | obeyed {texts : List String} {mid after : Board} {command : Command Subscriber Nat}
      {answer : Answer} (given : Given board texts mid)
      (known : ∀ subscriber, command.subscriber? = some subscriber →
        subscriber.IsAmong mid.tickets)
      (other : command ≠ .start .typeText) (accepted : mid.obey command = .ok (answer, after)) :
      Given board texts after
  | yielded {texts : List String} {mid : Board} (given : Given board texts mid) :
      Given board texts mid.yield.2
  | drawn {texts : List String} {mid : Board} (given : Given board texts mid) :
      Given board texts mid.drawTicket.2

/-- A board after texts have been given to its keyboard one after another. -/
def giveAll (board : Board) (texts : List String) : Board :=
  texts.foldl (fun board text => ending (typeText text board)) board

/-- A board with an idle keyboard that shows these texts types what can be typed, and that only. -/
structure TakesTexts (board : Board) (typed : List String) : Prop where
  shows : board.typed? = some typed
  accepts : ∀ {text : String}, Keyboard.IsTypeable text → ∃ after,
    typeText text board = .ok () after ∧
      after.clock = board.clock +
        Keyboard.milliseconds * (Bytes.ofText text).length * tickFrequency / 1000 ∧
      after.typed? = some (Keyboard.remember text typed)
  refuses : ∀ {text : String}, ¬Keyboard.IsTypeable text → ∃ after,
    typeText text board =
        .error (.fault (.rejected (if text = "" then .reserve else .invalid))) after ∧
      after.clock = board.clock ∧ after.typed? = some typed
  delivers : ∀ {digest : Digest} {digits : Nat} {code : Code} (counter : UInt64),
    Code.truncate digest digits = .ok code →
      ∃ after, Delivery.deliver code counter board = .ok .keyboard after

variable {board mid after : Board} {typed texts : List String}

/-- Texts that are given after others are given together with them. -/
theorem Given.giveAll {before : List String} (given : board.Given before mid)
    (texts : List String) : board.Given (before ++ texts) (mid.giveAll texts) := by
  induction texts generalizing before mid with
  | nil =>
    rw [List.append_nil]
    exact given
  | cons text texts ih =>
    rw [List.append_cons]
    exact ih (given.text text)

/-- A live board with an idle keyboard types what can be typed, and that only. -/
theorem ShowsTyped.takesTexts (shows : board.ShowsTyped typed) (live : board.Live) :
    board.TakesTexts typed where
  shows := shows.typed?
  accepts := fun typeable =>
    have ⟨after, ran, clock, left⟩ := typeText_of_typeable live shows typeable
    ⟨after, ran, clock, left.typed?⟩
  refuses := fun untypeable =>
    have ⟨after, ran, clock, left⟩ := typeText_of_untypeable shows untypeable
    ⟨after, ran, clock, left.typed?⟩
  delivers := fun counter cut => deliver_of_truncate live shows cut counter

/-- A call to type a text leaves the keyboard idle. It shows the text last if that can be typed, and
otherwise the same texts as before. -/
theorem ShowsTyped.ending_typeText (shows : board.ShowsTyped (Keyboard.latest texts))
    (live : board.Live) (text : String) :
    (ending (typeText text board)).ShowsTyped
      (Keyboard.latest (texts ++ [text].filter (Keyboard.IsTypeable ·))) := by
  by_cases typeable : Keyboard.IsTypeable text
  · obtain ⟨after, ran, _, left⟩ := typeText_of_typeable live shows typeable
    rw [ran, List.filter_singleton, decide_eq_true typeable]
    rw [Keyboard.remember_latest] at left
    exact left
  · obtain ⟨after, ran, _, left⟩ := typeText_of_untypeable shows typeable
    rw [ran, List.filter_singleton, decide_eq_false typeable, cond_false, List.append_nil]
    exact left

/-- The latest texts are shown, of those that had been typed and those that can be. -/
theorem Given.shows (given : board.Given texts after) (reachable : board.Reachable)
    (shows : board.ShowsTyped typed) : after.Reachable ∧
      after.ShowsTyped (Keyboard.latest (typed ++ texts.filter (Keyboard.IsTypeable ·))) := by
  induction given with
  | none =>
    rw [List.filter_nil, List.append_nil,
      Keyboard.latest_of_short (reachable.length_typed_le typed shows.typed?)]
    exact ⟨reachable, shows⟩
  | text _ text ih =>
    obtain ⟨reached, shown⟩ := ih
    rw [List.filter_append, ← List.append_assoc]
    exact ⟨(Roams.typeText text).ending reached, shown.ending_typeText reached.live text⟩
  | obeyed _ known other accepted ih =>
    obtain ⟨reached, shown⟩ := ih
    obtain ⟨same, idle⟩ := (obeys_of_ok accepted).typed?_eq
    exact ⟨.obeyed reached known accepted, same.trans shown.typed?, (idle other).trans shown.idle⟩
  | yielded _ ih =>
    obtain ⟨reached, shown⟩ := ih
    exact ⟨.yielded reached, shown.yield reached.sound reached.supplied⟩
  | drawn _ ih =>
    obtain ⟨reached, shown⟩ := ih
    exact ⟨.drawn reached, shown.typed?, shown.idle⟩

end Board

open BoardAct

/-- However many texts are given to an idle keyboard, and whatever goes on in between, the latest
texts that have been typed are shown, and texts are typed, and codes delivered, as ever. -/
theorem typed_latest {board after : Board} {typed texts : List String}
    (reachable : board.Reachable) (shows : board.ShowsTyped typed)
    (given : board.Given texts after) :
    after.TakesTexts (Keyboard.latest (typed ++ texts.filter (Keyboard.IsTypeable ·))) := by
  obtain ⟨reached, shown⟩ := given.shows reachable shows
  exact shown.takesTexts reached.live

/-- A text has been typed before, and a button is about to come up. -/
def Board.practised : Board :=
  (attended.obeyAll [.start .typeText]).yield.2.yield.2.yield.2.yield.2

/-- The commands and the texts that are given in its definition lead to that board. -/
theorem Board.reachable_practised : practised.Reachable := by
  have begun : (attended.obeyAll [.start .typeText]).Reachable :=
    reachable_attended.obeyAll (by simp [Command.subscriber?])
  exact .yielded (.yielded (.yielded (.yielded begun)))

/-- Refused texts are not shown, and the earliest ones are forgotten. -/
theorem typed_latest_practised :
    Board.practised.jobs = [⟨3932, .turn 0 false⟩] ∧
    Board.practised.typed? = some ["1"] ∧
    (Board.practised.giveAll ["", "sesame", "caf\u00e9"]).yield.2.TakesTexts ["1", "sesame"] ∧
    (Board.practised.giveAll ["a", "b", "", "c", "d", "e", "f", "g", "h", "i", "j", "k", "l", "m",
      "n", "o", "p", "q"]).TakesTexts
        ["b", "c", "d", "e", "f", "g", "h", "i", "j", "k", "l", "m", "n", "o", "p", "q"] := by
  have shows : Board.practised.ShowsTyped ["1"] := ⟨by decide, by decide⟩
  have mixed : Keyboard.latest (["1"] ++ ["", "sesame", "caf\u00e9"].filter
      (Keyboard.IsTypeable ·)) = ["1", "sesame"] := by decide +kernel
  have many : Keyboard.latest (["1"] ++ ["a", "b", "", "c", "d", "e", "f", "g", "h", "i", "j", "k",
      "l", "m", "n", "o", "p", "q"].filter (Keyboard.IsTypeable ·)) =
        ["b", "c", "d", "e", "f", "g", "h", "i", "j", "k", "l", "m", "n", "o", "p", "q"] := by
    decide +kernel
  rw [← mixed, ← many]
  exact ⟨by decide, shows.typed?,
    typed_latest Board.reachable_practised shows (Board.Given.none.giveAll _).yielded,
    typed_latest Board.reachable_practised shows (Board.Given.none.giveAll _)⟩

end OtpToken
