import JavaTypes.Text.StringLiteral

/-!
# Reading string literals back

Source text is read in two phases.  First, every `\u` escape whose backslash
follows an even number of backslashes is replaced by the code unit that it
names.  Then a string literal is read up to the first quote that is not escaped;
a line may not end inside it.

The literal of a text is printable ASCII and is read, with nothing left over, as
the UTF-16 encoding of the text.  Behind each character that is written, the
number of backslashes in a row is even again, so both phases can be followed
character by character.
-/

namespace JavaTypes.Text

/-! ## UTF-16 -/

/-- The UTF-16 encoding of a text. -/
def utf16 (text : List Char) : List Nat :=
  text.flatMap utf16Units

/-- The text that code units encode.  A high surrogate needs a low one behind
it, and a low surrogate a high one before it. -/
def decodeUtf16 : List Nat → Option (List Char)
  | [] => some []
  | unit :: rest =>
      if 0xd800 ≤ unit ∧ unit < 0xdc00 then
        match rest with
        | low :: rest =>
            if 0xdc00 ≤ low ∧ low < 0xe000 then
              (decodeUtf16 rest).map
                (Char.ofNat
                  (0x10000 + (unit - 0xd800) * 0x400 + (low - 0xdc00)) :: ·)
            else none
        | [] => none
      else if unit < 0xd800 ∨ 0xe000 ≤ unit ∧ unit < 0x10000 then
        (decodeUtf16 rest).map (Char.ofNat unit :: ·)
      else none

private theorem toNat_valid (c : Char) :
    c.toNat < 0xd800 ∨ 0xe000 ≤ c.toNat ∧ c.toNat < 0x110000 := by
  have valid := c.valid
  simp only [UInt32.isValidChar, Nat.isValidChar, Char.toNat_val] at valid
  omega

private theorem toNat_ofNat_of_valid
    {code : Nat} (valid : code < 0xd800 ∨ 0xe000 ≤ code ∧ code < 0x110000) :
    (Char.ofNat code).toNat = code := by
  have isValid : code.isValidChar := by
    simp only [Nat.isValidChar]
    omega
  rw [Char.ofNat, dif_pos isValid]
  rfl

private theorem decodeUtf16_units_append (c : Char) (rest : List Nat) :
    decodeUtf16 (utf16Units c ++ rest) =
      (decodeUtf16 rest).map (c :: ·) := by
  have valid := toNat_valid c
  by_cases small : c.toNat < 0x10000
  · have noSurrogate : ¬ (0xd800 ≤ c.toNat ∧ c.toNat < 0xdc00) := by omega
    have plain :
        c.toNat < 0xd800 ∨ 0xe000 ≤ c.toNat ∧ c.toNat < 0x10000 := by omega
    rw [utf16Units, if_pos small, List.singleton_append, decodeUtf16.eq_def]
    simp only [if_neg noSurrogate, if_pos plain, Char.ofNat_toNat]
  · obtain ⟨offset, isOffset⟩ : ∃ offset, c.toNat - 0x10000 = offset := ⟨_, rfl⟩
    have high :
        0xd800 ≤ 0xd800 + offset / 0x400 ∧
          0xd800 + offset / 0x400 < 0xdc00 := by omega
    have low :
        0xdc00 ≤ 0xdc00 + offset % 0x400 ∧
          0xdc00 + offset % 0x400 < 0xe000 := by omega
    have code :
        0x10000 + (0xd800 + offset / 0x400 - 0xd800) * 0x400 +
          (0xdc00 + offset % 0x400 - 0xdc00) = c.toNat := by omega
    rw [utf16Units, if_neg small, isOffset, List.cons_append,
      List.singleton_append, decodeUtf16.eq_def]
    simp only [if_pos high, if_pos low, code, Char.ofNat_toNat]

private theorem decodeUtf16_utf16 (text : List Char) :
    decodeUtf16 (utf16 text) = some text := by
  induction text with
  | nil => rfl
  | cons c text inductionHypothesis =>
      rw [utf16, List.flatMap_cons, decodeUtf16_units_append]
      rw [utf16] at inductionHypothesis
      rw [inductionHypothesis]
      rfl

private theorem utf16_of_decodeUtf16
    {units : List Nat} {text : List Char}
    (decoded : decodeUtf16 units = some text) : utf16 text = units := by
  fun_induction decodeUtf16 units generalizing text with
  | case1 =>
      cases decoded
      rfl
  | case2 unit high low rest isLow inductionHypothesis =>
      obtain ⟨later, laterDecoded, rfl⟩ := Option.map_eq_some_iff.mp decoded
      obtain ⟨code, isCode⟩ :
          ∃ code,
            0x10000 + (unit - 0xd800) * 0x400 + (low - 0xdc00) = code :=
        ⟨_, rfl⟩
      have isChar : (Char.ofNat code).toNat = code :=
        toNat_ofNat_of_valid (by omega)
      have large : ¬ code < 0x10000 := by omega
      have first : 0xd800 + (code - 0x10000) / 0x400 = unit := by omega
      have second : 0xdc00 + (code - 0x10000) % 0x400 = low := by omega
      have isLater := inductionHypothesis laterDecoded
      rw [utf16] at isLater
      rw [isCode, utf16, List.flatMap_cons, utf16Units, isChar, if_neg large,
        first, second, isLater]
      rfl
  | case3 => cases decoded
  | case4 => cases decoded
  | case5 unit rest notHigh plain inductionHypothesis =>
      obtain ⟨later, laterDecoded, rfl⟩ := Option.map_eq_some_iff.mp decoded
      have isChar : (Char.ofNat unit).toNat = unit :=
        toNat_ofNat_of_valid (by omega)
      have small : unit < 0x10000 := by omega
      have isLater := inductionHypothesis laterDecoded
      rw [utf16] at isLater
      rw [utf16, List.flatMap_cons, utf16Units, isChar, if_pos small, isLater]
      rfl
  | case6 => cases decoded

/-- A text has one encoding. -/
theorem decodeUtf16_eq_some_iff
    {units : List Nat} {text : List Char} :
    decodeUtf16 units = some text ↔ units = utf16 text := by
  constructor
  · intro decoded
    exact (utf16_of_decodeUtf16 decoded).symm
  · rintro rfl
    exact decodeUtf16_utf16 text

theorem utf16_injective : Function.Injective utf16 := by
  intro first second same
  have decoded := decodeUtf16_utf16 first
  rw [same, decodeUtf16_utf16] at decoded
  exact (Option.some.inj decoded).symm

/-! ## Unicode escapes -/

/-- The value of a hexadecimal digit. -/
def hexValue? (c : Char) : Option Nat :=
  if '0' ≤ c ∧ c ≤ '9' then some (c.toNat - 48)
  else if 'a' ≤ c ∧ c ≤ 'f' then some (c.toNat - 87)
  else if 'A' ≤ c ∧ c ≤ 'F' then some (c.toNat - 55)
  else none

/-- The code unit of a text that starts with `u` and four hexadecimal digits. -/
def escapedUnit? : List Char → Option Nat
  | marker :: first :: second :: third :: fourth :: _ =>
      if marker = 'u' then do
        let first ← hexValue? first
        let second ← hexValue? second
        let third ← hexValue? third
        let fourth ← hexValue? fourth
        return first * 0x1000 + second * 0x100 + third * 0x10 + fourth
      else none
  | _ => none

/-- The first phase of reading, behind `before` backslashes in a row.  A backslash
that does not start an escape stands for itself. -/
def translate (before : Nat) : List Char → List Nat
  | [] => []
  | c :: rest =>
      if c = '\\' then
        match if before % 2 = 0 then escapedUnit? rest else none, rest with
        | some unit, _ :: _ :: _ :: _ :: _ :: later => unit :: translate 0 later
        | _, rest => c.toNat :: translate (before + 1) rest
      else utf16Units c ++ translate 0 rest

/-- Only the parity of the backslashes before counts. -/
private theorem translate_congr
    {before before' : Nat} (sameParity : before % 2 = before' % 2)
    (text : List Char) : translate before text = translate before' text := by
  induction text generalizing before before' with
  | nil => rfl
  | cons c rest inductionHypothesis =>
      have later : translate (before + 1) rest = translate (before' + 1) rest :=
        inductionHypothesis (by omega)
      rw [translate.eq_def, translate.eq_def before']
      simp only [sameParity]
      split
      · split
        · rfl
        · rw [later]
      · rfl

private theorem translate_cons
    {c : Char} (notBackslash : c ≠ '\\') (before : Nat) (rest : List Char) :
    translate before (c :: rest) = utf16Units c ++ translate 0 rest := by
  rw [translate.eq_def]
  simp only [if_neg notBackslash]

/-- A backslash before a character other than `u` stands for itself. -/
private theorem translate_backslash
    {next : Char} (notMarker : next ≠ 'u') (rest : List Char) :
    translate 0 ('\\' :: next :: rest) =
      0x5c :: translate 1 (next :: rest) := by
  have noEscape : escapedUnit? (next :: rest) = none := by
    unfold escapedUnit?
    split
    · rename_i shape
      simp only [List.cons.injEq] at shape
      rw [if_neg (shape.1 ▸ notMarker)]
    · rfl
  rw [translate.eq_def]
  simp [noEscape]

private theorem translate_escapedBackslash (rest : List Char) :
    translate 0 ('\\' :: '\\' :: rest) = 0x5c :: 0x5c :: translate 0 rest := by
  have second : translate 1 ('\\' :: rest) = 0x5c :: translate 2 rest := by
    rw [translate.eq_def]
    simp
  have parity : translate 2 rest = translate 0 rest :=
    translate_congr (by decide) rest
  rw [translate_backslash (by decide), second, parity]

private theorem hexValue?_hexDigit :
    ∀ digit < 16, hexValue? (hexDigit digit) = some digit := by decide

private theorem translate_unitEscape
    {unit : Nat} (small : unit < 0x10000) (rest : List Char) :
    translate 0 (unitEscape unit ++ rest) = unit :: translate 0 rest := by
  have digit (place : Nat) :
      hexValue? (hexDigit (place % 16)) = some (place % 16) :=
    hexValue?_hexDigit _ (Nat.mod_lt _ (by decide))
  have value :
      unit / 0x1000 % 16 * 0x1000 + unit / 0x100 % 16 * 0x100 +
        unit / 0x10 % 16 * 0x10 + unit % 16 = unit := by omega
  rw [unitEscape, translate.eq_def]
  simp [escapedUnit?, digit, value]

/-! ## Lexing -/

/-- The character that a letter behind a backslash stands for. -/
def escapeValue? (letter : Nat) : Option Nat :=
  if letter = 'b'.toNat then some 0x08
  else if letter = 't'.toNat then some 0x09
  else if letter = 'n'.toNat then some 0x0a
  else if letter = 'f'.toNat then some 0x0c
  else if letter = 'r'.toNat then some 0x0d
  else if letter = '"'.toNat then some 0x22
  else if letter = '\\'.toNat then some 0x5c
  else none

/-- Code units in front of what was read. -/
def prepend (units : List Nat) (read : Option (List Nat × List Nat)) :
    Option (List Nat × List Nat) :=
  read.map fun result => (units ++ result.1, result.2)

private theorem prepend_nil (read : Option (List Nat × List Nat)) :
    prepend [] read = read := by
  cases read <;> rfl

private theorem prepend_append (first second : List Nat)
    (read : Option (List Nat × List Nat)) :
    prepend (first ++ second) read = prepend first (prepend second read) := by
  cases read <;> simp [prepend]

/-- The second phase of reading, behind the quote that opens a string literal:
the code units up to the first quote that is not escaped, and what stands behind
it.  Refused are a line that ends inside the literal, an unknown escape, and a
literal that does not end. -/
def lexBody : List Nat → Option (List Nat × List Nat)
  | [] => none
  | unit :: rest =>
      if unit = '"'.toNat then some ([], rest)
      else if unit = 0x0a ∨ unit = 0x0d then none
      else if unit = '\\'.toNat then
        match rest with
        | [] => none
        | letter :: rest =>
            match escapeValue? letter with
            | none => none
            | some value => prepend [value] (lexBody rest)
      else prepend [unit] (lexBody rest)

/-- Read one string literal at the start of a source text: the code units of its
value, and what is left of the translated text. -/
def readLiteral (source : List Char) : Option (List Nat × List Nat) :=
  match translate 0 source with
  | [] => none
  | unit :: rest => if unit = '"'.toNat then lexBody rest else none

/-! ## One character -/

/-- The code unit stands for itself inside a string literal. -/
def IsPlainUnit (unit : Nat) : Prop :=
  unit ≠ '"'.toNat ∧ unit ≠ '\\'.toNat ∧ unit ≠ 0x0a ∧ unit ≠ 0x0d

private theorem mem_utf16Units
    {c : Char} {unit : Nat} (member : unit ∈ utf16Units c) :
    unit < 0x10000 ∧ (unit = c.toNat ∨ 0xd800 ≤ unit) := by
  have valid := toNat_valid c
  unfold utf16Units at member
  split at member
  · rw [List.mem_singleton] at member
    omega
  · simp only [List.mem_cons, List.not_mem_nil, or_false] at member
    omega

private theorem isPlainUnit_of_mem
    {c : Char} (notQuote : c ≠ '"') (notBackslash : c ≠ '\\')
    (notFeed : c ≠ '\n') (notReturn : c ≠ '\r') {unit : Nat}
    (member : unit ∈ utf16Units c) : IsPlainUnit unit := by
  obtain ⟨_, rfl | surrogate⟩ := mem_utf16Units member
  · refine ⟨?_, ?_, ?_, ?_⟩
    · exact fun same => notQuote (Char.toNat_inj.mp same)
    · exact fun same => notBackslash (Char.toNat_inj.mp same)
    · exact fun same => notFeed (Char.toNat_inj.mp same)
    · exact fun same => notReturn (Char.toNat_inj.mp same)
  · refine ⟨?_, ?_, ?_, ?_⟩ <;> (rintro rfl; revert surrogate; decide)

private theorem lexBody_append
    {units : List Nat} (plain : ∀ unit ∈ units, IsPlainUnit unit)
    (rest : List Nat) :
    lexBody (units ++ rest) = prepend units (lexBody rest) := by
  induction units with
  | nil =>
      rw [List.nil_append, prepend_nil]
  | cons unit units inductionHypothesis =>
      obtain ⟨notQuote, notBackslash, notFeed, notReturn⟩ :=
        plain unit List.mem_cons_self
      have later := inductionHypothesis fun other member =>
        plain other (List.mem_cons_of_mem unit member)
      rw [List.cons_append, lexBody.eq_def]
      simp only [notQuote, notFeed, notReturn, notBackslash, if_false, or_self]
      rw [later, ← prepend_append]
      rfl

private theorem translate_unitEscapes
    {units : List Nat} (small : ∀ unit ∈ units, unit < 0x10000)
    (rest : List Char) :
    translate 0 (units.flatMap unitEscape ++ rest) =
      units ++ translate 0 rest := by
  induction units with
  | nil => rfl
  | cons unit units inductionHypothesis =>
      have later := inductionHypothesis fun other member =>
        small other (List.mem_cons_of_mem unit member)
      rw [List.flatMap_cons, List.append_assoc,
        translate_unitEscape (small unit List.mem_cons_self), later]
      rfl

/-- What both phases do with one written character, whatever follows. -/
def ReadsAs (written : List Char) (units : List Nat) : Prop :=
  ∀ rest, lexBody (translate 0 (written ++ rest)) =
    prepend units (lexBody (translate 0 rest))

private theorem readsAs_letterEscape
    {letter c : Char} (notMarker : letter ≠ 'u') (notBackslash : letter ≠ '\\')
    (letterSmall : letter.toNat < 0x10000)
    (named : escapeValue? letter.toNat = some c.toNat)
    (small : c.toNat < 0x10000) : ReadsAs ['\\', letter] (utf16Units c) := by
  intro rest
  have translated :
      translate 0 (['\\', letter] ++ rest) =
        0x5c :: letter.toNat :: translate 0 rest := by
    have second := translate_cons notBackslash 1 rest
    rw [utf16Units, if_pos letterSmall] at second
    rw [List.cons_append, List.singleton_append,
      translate_backslash notMarker, second]
    rfl
  rw [translated, lexBody.eq_def, utf16Units, if_pos small]
  simp [named]

private theorem readsAs_escapedBackslash :
    ReadsAs ['\\', '\\'] (utf16Units '\\') := by
  intro rest
  have units : utf16Units '\\' = [0x5c] := rfl
  rw [List.cons_append, List.singleton_append, translate_escapedBackslash,
    lexBody.eq_def, units]
  simp [escapeValue?]

/-- A character is read back as its code units. -/
private theorem readsAs_escapeChar (c : Char) :
    ReadsAs (escapeChar c) (utf16Units c) := by
  by_cases quote : c = '"'
  · subst quote
    exact readsAs_letterEscape (by decide) (by decide) (by decide) rfl (by decide)
  by_cases backslash : c = '\\'
  · subst backslash
    exact readsAs_escapedBackslash
  by_cases feed : c = '\n'
  · subst feed
    exact readsAs_letterEscape (by decide) (by decide) (by decide) rfl (by decide)
  by_cases carriage : c = '\r'
  · subst carriage
    exact readsAs_letterEscape (by decide) (by decide) (by decide) rfl (by decide)
  by_cases tab : c = '\t'
  · subst tab
    exact readsAs_letterEscape (by decide) (by decide) (by decide) rfl (by decide)
  by_cases backspace : c = '\x08'
  · subst backspace
    exact readsAs_letterEscape (by decide) (by decide) (by decide) rfl (by decide)
  by_cases formFeed : c = '\x0c'
  · subst formFeed
    exact readsAs_letterEscape (by decide) (by decide) (by decide) rfl (by decide)
  -- The other characters are their code units already after the first phase.
  intro rest
  have translated :
      translate 0 (escapeChar c ++ rest) =
        utf16Units c ++ translate 0 rest := by
    simp only [escapeChar, quote, backslash, feed, carriage, tab, backspace,
      formFeed, if_false]
    split
    · exact translate_cons backslash 0 rest
    · exact translate_unitEscapes
        (fun unit member => (mem_utf16Units member).1) rest
  rw [translated]
  exact lexBody_append
    (fun unit member =>
      isPlainUnit_of_mem quote backslash feed carriage member) _

/-! ## Whole literals -/

private theorem readsAs_flatMap_escapeChar (text : List Char) :
    ReadsAs (text.flatMap escapeChar) (utf16 text) := by
  induction text with
  | nil =>
      intro rest
      exact (prepend_nil _).symm
  | cons c text inductionHypothesis =>
      intro rest
      rw [List.flatMap_cons, List.append_assoc, readsAs_escapeChar c,
        inductionHypothesis rest, ← prepend_append]
      rfl

/-- A literal is read as the code units of its text, and ends where it was
written to end. -/
theorem readLiteral_append (text rest : List Char) :
    readLiteral (literalChars text ++ rest) =
      some (utf16 text, translate 0 rest) := by
  have closes :
      translate 0 ('"' :: rest) = '"'.toNat :: translate 0 rest :=
    translate_cons (by decide) 0 rest
  have opens :
      translate 0 (literalChars text ++ rest) =
        '"'.toNat :: translate 0 (text.flatMap escapeChar ++ '"' :: rest) := by
    rw [literalChars, List.append_assoc]
    exact translate_cons (by decide) 0 _
  have atQuote :
      lexBody (translate 0 ('"' :: rest)) = some ([], translate 0 rest) := by
    rw [closes, lexBody.eq_def]
    simp
  rw [readLiteral, opens]
  simp only [if_true]
  rw [readsAs_flatMap_escapeChar, atQuote]
  simp [prepend]

/-- Two literals with something behind them are told apart. -/
theorem literalChars_append_inj
    {first second rest rest' : List Char}
    (same : literalChars first ++ rest = literalChars second ++ rest') :
    first = second ∧ rest = rest' := by
  have read := readLiteral_append first rest
  rw [same, readLiteral_append] at read
  have sameUnits : utf16 second = utf16 first :=
    (Prod.mk.inj (Option.some.inj read)).1
  have sameText := utf16_injective sameUnits
  subst sameText
  exact ⟨rfl, List.append_cancel_left same⟩

/-! ## Printable ASCII -/

/-- The character is in printable ASCII. -/
def IsPrintable (c : Char) : Prop :=
  ' ' ≤ c ∧ c ≤ '~'

instance (c : Char) : Decidable (IsPrintable c) :=
  inferInstanceAs (Decidable (_ ∧ _))

private theorem isPrintable_hexDigit :
    ∀ digit < 16, IsPrintable (hexDigit digit) := by
  decide

private theorem isPrintable_of_mem_unitEscape
    {unit : Nat} {c : Char} (member : c ∈ unitEscape unit) : IsPrintable c := by
  have digit (place : Nat) : IsPrintable (hexDigit (place % 16)) :=
    isPrintable_hexDigit _ (Nat.mod_lt _ (by decide))
  simp only [unitEscape, List.mem_cons, List.not_mem_nil, or_false] at member
  rcases member with rfl | rfl | rfl | rfl | rfl | rfl
  · decide
  · decide
  all_goals exact digit _

private theorem isPrintable_of_mem_escapeChar
    {c written : Char} (member : written ∈ escapeChar c) :
    IsPrintable written := by
  have pair {letter : Char} (printable : IsPrintable letter)
      (inPair : written ∈ ['\\', letter]) : IsPrintable written := by
    simp only [List.mem_cons, List.not_mem_nil, or_false] at inPair
    rcases inPair with rfl | rfl
    · decide
    · exact printable
  unfold escapeChar at member
  iterate 7
    split at member
    · exact pair (by decide) member
  split at member
  · rename_i printable
    rw [List.mem_singleton] at member
    simpa [IsPrintable, member] using printable
  · obtain ⟨unit, _, inEscape⟩ := List.mem_flatMap.mp member
    exact isPrintable_of_mem_unitEscape inEscape

theorem isPrintable_of_mem_literalChars
    {text : List Char} {c : Char} (member : c ∈ literalChars text) :
    IsPrintable c := by
  simp only [literalChars, List.mem_append, List.mem_cons, List.mem_flatMap,
    List.not_mem_nil, or_false] at member
  rcases member with (rfl | ⟨source, _, written⟩) | rfl
  · decide
  · exact isPrintable_of_mem_escapeChar written
  · decide

/-- The string literal of a text is printable ASCII.  It is read as one literal
with nothing behind it, and its value is the UTF-16 encoding of the text: the
only code units that decode to it. -/
theorem stringLiteral_reads_back (text : String) :
    (∀ c ∈ (stringLiteral text).toList, IsPrintable c) ∧
      readLiteral (stringLiteral text).toList =
        some (utf16 text.toList, []) ∧
      ∀ units, decodeUtf16 units = some text.toList ↔
        units = utf16 text.toList := by
  have written : (stringLiteral text).toList = literalChars text.toList :=
    String.toList_ofList
  rw [written]
  refine ⟨fun c => isPrintable_of_mem_literalChars, ?_,
    fun units => decodeUtf16_eq_some_iff⟩
  have read := readLiteral_append text.toList []
  rwa [List.append_nil] at read

-- A line feed cannot be written as a `\u` escape: it would end the line before
-- the literal is read.
example : readLiteral ('"' :: unitEscape 0x0a ++ ['"']) = none := by decide

end JavaTypes.Text
