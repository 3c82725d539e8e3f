import JavaTypes.Proofs.UnambiguousRendering
import JavaTypes.Proofs.VariableHistory

/-!
# Texts between separators

The parts of a declaration are written one behind the other, with spaces, commas
and parentheses between them.  The text of a type contains spaces and commas
itself, but only inside angle brackets.  So the end of a type can be found: it is
the first separator that stands outside of all angle brackets.

Names are sequences of identifiers with dots between them.  They contain no
separators and no brackets, and none of them is a reserved word.
-/

namespace JavaTypes

/-- The characters that end a part of a declaration. -/
def isSeparator (c : Char) : Bool :=
  [' ', ',', '(', ')'].contains c

def isAngle (c : Char) : Bool :=
  ['<', '>'].contains c

/-- A text whose angle brackets match and whose separators stand inside of them.
The flag tells whether the whole text stands inside angle brackets. -/
inductive Enclosed : Bool → List Char → Prop where
  | nil (inside : Bool) : Enclosed inside []
  | char {inside : Bool} {c : Char} {rest : List Char}
      (noAngle : isAngle c = false)
      (allowed : inside = true ∨ isSeparator c = false)
      (later : Enclosed inside rest) : Enclosed inside (c :: rest)
  | angles {inside : Bool} {inner rest : List Char}
      (within : Enclosed true inner) (later : Enclosed inside rest) :
      Enclosed inside ('<' :: (inner ++ '>' :: rest))

namespace Enclosed

theorem append
    {inside : Bool} {first second : List Char}
    (enclosed : Enclosed inside first) (enclosed' : Enclosed inside second) :
    Enclosed inside (first ++ second) := by
  induction enclosed with
  | nil => exact enclosed'
  | char noAngle allowed _ inductionHypothesis =>
      exact .char noAngle allowed (inductionHypothesis enclosed')
  | @angles inside inner rest within _ _ inductionHypothesis =>
      rw [List.cons_append, List.append_assoc, List.cons_append]
      exact .angles within (inductionHypothesis enclosed')

theorem of_chars
    {text : List Char} {inside : Bool}
    (allowed : ∀ c ∈ text,
      isAngle c = false ∧ (inside = true ∨ isSeparator c = false)) :
    Enclosed inside text := by
  induction text with
  | nil => exact .nil inside
  | cons c rest inductionHypothesis =>
      obtain ⟨noAngle, here⟩ := allowed c List.mem_cons_self
      exact .char noAngle here
        (inductionHypothesis fun other member =>
          allowed other (List.mem_cons_of_mem c member))

theorem intercalate
    {separator : List Char} {texts : List (List Char)}
    (between : Enclosed true separator)
    (enclosed : ∀ text ∈ texts, Enclosed true text) :
    Enclosed true (separator.intercalate texts) := by
  induction texts with
  | nil => exact .nil true
  | cons first rest inductionHypothesis =>
      have here := enclosed first List.mem_cons_self
      cases rest with
      | nil => simpa using here
      | cons second rest =>
          rw [List.intercalate_cons_cons]
          exact (here.append between).append
            (inductionHypothesis fun text member =>
              enclosed text (List.mem_cons_of_mem first member))

end Enclosed

/-! ## Finding the end -/

/-- Cut a text at the first separator outside of angle brackets, where the text
starts inside `depth` of them. -/
def cut : Nat → List Char → List Char × List Char
  | _, [] => ([], [])
  | depth, c :: rest =>
      if depth = 0 ∧ isSeparator c = true then ([], c :: rest)
      else
        let depth :=
          if c = '<' then depth + 1 else if c = '>' then depth - 1 else depth
        (c :: (cut depth rest).1, (cut depth rest).2)

/-- The text ends here, or goes on with a separator. -/
def StartsWithSeparator (text : List Char) : Prop :=
  ∀ c ∈ text.head?, isSeparator c = true

theorem startsWithSeparator_cons
    {c : Char} (separator : isSeparator c = true) (rest : List Char) :
    StartsWithSeparator (c :: rest) := by
  intro head isHead
  obtain rfl : c = head := Option.some.inj isHead
  exact separator

private theorem cut_of_startsWithSeparator
    {rest : List Char} (stops : StartsWithSeparator rest) :
    cut 0 rest = ([], rest) := by
  cases rest with
  | nil => rfl
  | cons c rest => simp [cut, stops c rfl]

namespace Enclosed

private theorem cut_append
    {inside : Bool} {text : List Char} (enclosed : Enclosed inside text)
    {depth : Nat} (deep : inside = true → 0 < depth) (rest : List Char) :
    cut depth (text ++ rest) =
      (text ++ (cut depth rest).1, (cut depth rest).2) := by
  induction enclosed generalizing depth rest with
  | nil => rfl
  | @char inside c later noAngle allowed _ inductionHypothesis =>
      have goesOn : ¬ (depth = 0 ∧ isSeparator c = true) := by
        rintro ⟨shallow, separator⟩
        rcases allowed with isInside | noSeparator
        · have := deep isInside
          omega
        · simp [separator] at noSeparator
      have notAngle : c ≠ '<' ∧ c ≠ '>' := by simpa [isAngle] using noAngle
      rw [List.cons_append, cut, if_neg goesOn]
      simp only [notAngle.1, notAngle.2, if_false]
      rw [inductionHypothesis deep]
      rfl
  | @angles inside inner later within _ withinHypothesis laterHypothesis =>
      have opens (text : List Char) :
          cut depth ('<' :: text) =
            ('<' :: (cut (depth + 1) text).1, (cut (depth + 1) text).2) := by
        simp [cut, isSeparator]
      have closes (text : List Char) :
          cut (depth + 1) ('>' :: text) =
            ('>' :: (cut depth text).1, (cut depth text).2) := by
        simp [cut]
      rw [List.cons_append, List.append_assoc, List.cons_append, opens,
        withinHypothesis (fun _ => Nat.succ_pos depth), closes,
        laterHypothesis deep]
      simp

/-- Two enclosed texts, each with a separator or nothing behind it, are told
apart. -/
theorem append_inj
    {first second rest rest' : List Char}
    (enclosed : Enclosed false first) (enclosed' : Enclosed false second)
    (stops : StartsWithSeparator rest) (stops' : StartsWithSeparator rest')
    (same : first ++ rest = second ++ rest') :
    first = second ∧ rest = rest' := by
  have cutAt {text behind : List Char} (outside : Enclosed false text)
      (ends : StartsWithSeparator behind) :
      cut 0 (text ++ behind) = (text, behind) := by
    rw [outside.cut_append nofun, cut_of_startsWithSeparator ends,
      List.append_nil]
  have sameCut := cutAt enclosed stops
  rw [same, cutAt enclosed' stops'] at sameCut
  obtain ⟨sameText, sameRest⟩ := Prod.mk.inj sameCut
  exact ⟨sameText.symm, sameRest.symm⟩

end Enclosed

/-! ## Names -/

/-- The character may occur in a name: in one of its identifiers, or between
them. -/
def isNameChar (c : Char) : Bool :=
  isIdentifierPart c || c == '.'

theorem ne_of_isNameChar
    {c : Char} (inName : isNameChar c = true) (other : Char)
    (excluded : isNameChar other = false) : c ≠ other := by
  rintro rfl
  simp [inName] at excluded

private theorem plain_of_isNameChar
    {c : Char} (inName : isNameChar c = true) :
    isAngle c = false ∧ isSeparator c = false ∧ isMark c = false := by
  have differs := ne_of_isNameChar inName
  simp [isAngle, isSeparator, isMark, differs '<' (by decide),
    differs '>' (by decide), differs ' ' (by decide), differs ',' (by decide),
    differs '(' (by decide), differs ')' (by decide), differs '[' (by decide),
    differs ']' (by decide), differs '?' (by decide)]

theorem enclosed_of_isNameChar
    {text : List Char} (inside : Bool)
    (inName : ∀ c ∈ text, isNameChar c = true) : Enclosed inside text := by
  apply Enclosed.of_chars
  intro c member
  obtain ⟨noAngle, noSeparator, _⟩ := plain_of_isNameChar (inName c member)
  exact ⟨noAngle, Or.inr noSeparator⟩

theorem WellSpelled.isNameChar
    {name : String} (spelled : WellSpelled name) :
    ∀ c ∈ name.toList, isNameChar c = true := by
  obtain ⟨⟨first, rest, chars, start, parts⟩, _⟩ := spelled
  rw [chars]
  intro c member
  rcases List.mem_cons.mp member with rfl | later
  · simp only [isIdentifierStart, Bool.or_eq_true, beq_iff_eq] at start
    rcases start with (rfl | rfl) | start
    · rfl
    · rfl
    · simp [JavaTypes.isNameChar, isIdentifierPart, Text.isXidContinue,
        Text.isXidStart] at start ⊢
      simp [start]
  · simp [JavaTypes.isNameChar, parts c later]

theorem WellSpelled.enclosed
    {name : String} (spelled : WellSpelled name) :
    Enclosed false name.toList :=
  enclosed_of_isNameChar false spelled.isNameChar

theorem WellSpelled.toList_ne_nil
    {name : String} (spelled : WellSpelled name) : name.toList ≠ [] := by
  obtain ⟨⟨first, rest, chars, _⟩, _⟩ := spelled
  simp [chars]

private theorem keyword_mem_reservedWords (kind : Primitive) :
    kind.keyword ∈ reservedWords := by
  cases kind <;> decide

theorem isNameChar_of_mem_reservedWords
    {word : String} (reserved : word ∈ reservedWords) :
    ∀ c ∈ word.toList, isNameChar c = true := by
  have checked :
      reservedWords.all (fun word => word.toList.all isNameChar) = true := by
    decide +kernel
  exact List.all_eq_true.mp (List.all_eq_true.mp checked word reserved)

/-- A name: identifiers with dots between them. -/
def IsDotted (name : String) : Prop :=
  ∃ segments : List String, segments ≠ [] ∧
    (∀ segment ∈ segments, IsIdentifier segment) ∧
      name = String.intercalate "." segments

private theorem mem_intercalate
    {separator : List Char} {texts : List (List Char)} {c : Char}
    (member : c ∈ separator.intercalate texts) :
    c ∈ separator ∨ ∃ text ∈ texts, c ∈ text := by
  induction texts with
  | nil => simp at member
  | cons first rest inductionHypothesis =>
      cases rest with
      | nil => exact Or.inr ⟨first, List.mem_cons_self, by simpa using member⟩
      | cons second rest =>
          rw [List.intercalate_cons_cons, List.mem_append, List.mem_append]
            at member
          rcases member with (here | between) | later
          · exact Or.inr ⟨first, List.mem_cons_self, here⟩
          · exact Or.inl between
          · refine (inductionHypothesis later).imp_right ?_
            rintro ⟨text, listed, inside⟩
            exact ⟨text, List.mem_cons_of_mem first listed, inside⟩

namespace IsDotted

theorem isNameChar
    {name : String} (dotted : IsDotted name) :
    ∀ c ∈ name.toList, isNameChar c = true := by
  obtain ⟨segments, _, identifiers, rfl⟩ := dotted
  intro c member
  rw [String.toList_intercalate] at member
  rcases mem_intercalate member with dot | ⟨text, isSegment, inside⟩
  · have isDot : c = '.' := by simpa using dot
    rw [isDot]
    decide
  · obtain ⟨segment, listed, rfl⟩ := List.mem_map.mp isSegment
    have spelled := isIdentifier_iff_wellSpelled.mp (identifiers segment listed)
    exact spelled.isNameChar c inside

/-- A name is a single identifier, or has a dot. -/
private theorem isIdentifier_or_mem
    {name : String} (dotted : IsDotted name) :
    IsIdentifier name ∨ '.' ∈ name.toList := by
  obtain ⟨segments, nonempty, identifiers, rfl⟩ := dotted
  cases segments with
  | nil => exact absurd rfl nonempty
  | cons first rest =>
      cases rest with
      | nil =>
          have single : String.intercalate "." [first] = first := by
            apply String.toList_injective
            simp
          rw [single]
          exact Or.inl (identifiers first List.mem_cons_self)
      | cons second rest =>
          right
          simp [String.toList_intercalate]

private theorem not_mem_reservedWords
    {name : String} (dotted : IsDotted name) : name ∉ reservedWords := by
  rcases dotted.isIdentifier_or_mem with isIdentifier | hasDot
  · exact (isIdentifier_iff_wellSpelled.mp isIdentifier).2
  · have noDots : ∀ word ∈ reservedWords, '.' ∉ word.toList := by
      decide +kernel
    exact fun reserved => noDots name reserved hasDot

theorem toList_ne_nil
    {name : String} (dotted : IsDotted name) : name.toList ≠ [] := by
  rcases dotted.isIdentifier_or_mem with isIdentifier | hasDot
  · exact (isIdentifier_iff_wellSpelled.mp isIdentifier).toList_ne_nil
  · exact List.ne_nil_of_mem hasDot

theorem isPlainName
    {name : String} (dotted : IsDotted name) : isPlainName name = true := by
  have nonempty : name ≠ "" := by
    rintro rfl
    exact dotted.toList_ne_nil rfl
  have noKeyword : Primitive.ofKeyword? name = none := by
    cases found : Primitive.ofKeyword? name with
    | none => rfl
    | some kind =>
        have isKeyword := Primitive.keyword_of_ofKeyword? found
        have reserved := keyword_mem_reservedWords kind
        rw [isKeyword] at reserved
        exact absurd reserved dotted.not_mem_reservedWords
  have noMarks : ∀ c ∈ name.toList, isMark c = false := fun c member =>
    (plain_of_isNameChar (dotted.isNameChar c member)).2.2
  simp [JavaTypes.isPlainName, nonempty, noKeyword]
  exact noMarks

end IsDotted

namespace Env

/-- Every name is made of identifiers, and no two symbols have the same name. -/
structure DottedNames (env : Env) : Prop where
  dotted : ∀ symbol name, env.name? symbol = some name → IsDotted name
  distinct : ∀ first second name, env.name? first = some name →
    env.name? second = some name → first = second

/-- The type is written with known symbols, is no wildcard, and has wildcards
only as type arguments. -/
structure Writes (env : Env) (type : Ty) : Prop where
  known : env.Knows type
  placed : type.isPlaced .outside = true

variable {env : Env}

theorem DottedNames.namesApart
    (names : env.DottedNames) {symbols : List Symbol}
    (known : ∀ symbol ∈ symbols, (env.name? symbol).isSome = true) :
    env.NamesApart symbols where
  plain symbol listed := by
    obtain ⟨name, named⟩ := Option.isSome_iff_exists.mp (known symbol listed)
    rw [named, Option.any_some]
    exact (names.dotted symbol name named).isPlainName
  distinct first listed second listed' same := by
    obtain ⟨name, named⟩ := Option.isSome_iff_exists.mp (known first listed)
    exact names.distinct first second name named (same ▸ named)

/-! ## Types -/

/-- The texts of two types determine the types. -/
theorem DottedNames.text_inj
    (names : env.DottedNames) {first second : Ty} (writes : env.Writes first)
    (writes' : env.Writes second) (same : env.text first = env.text second) :
    first = second := by
  have apart : env.NamesApart (first.symbols ++ second.symbols) := by
    apply names.namesApart
    intro symbol listed
    rcases List.mem_append.mp listed with inFirst | inSecond
    · exact writes.known symbol inFirst
    · exact writes'.known symbol inSecond
  have written : first.WrittenWith (first.symbols ++ second.symbols) :=
    ⟨List.subset_append_left _ _,
      ((Ty.isPlaced_outside_iff first).mp writes.placed).1⟩
  have written' : second.WrittenWith (first.symbols ++ second.symbols) :=
    ⟨List.subset_append_right _ _,
      ((Ty.isPlaced_outside_iff second).mp writes'.placed).1⟩
  have nothing : EndsArgument [] := by
    intro character head
    cases head
  exact (apart.readable first written second written' [] [] nothing nothing
    (by rw [same])).1

private theorem DottedNames.isNameChar_wordText
    (names : env.DottedNames) (word : Word) :
    ∀ c ∈ env.wordText word, isNameChar c = true := by
  cases word with
  | keyword kind =>
      exact isNameChar_of_mem_reservedWords (keyword_mem_reservedWords kind)
  | name symbol =>
      rw [wordText]
      cases named : env.name? symbol with
      | none => simp
      | some name => exact (names.dotted symbol name named).isNameChar

private theorem enclosed_brackets (inside : Bool) (count : Nat) :
    Enclosed inside (brackets count) := by
  induction count with
  | zero => exact .nil inside
  | succ count inductionHypothesis =>
      exact .char rfl (Or.inr rfl) (.char rfl (Or.inr rfl) inductionHypothesis)

private theorem enclosed_behindWord
    {type : Ty} (inside : Bool)
    (args : ∀ arg ∈ type.args, Enclosed true (env.text arg)) :
    Enclosed inside (env.behindWord type) := by
  cases type with
  | parameterized erasure args =>
      rw [behindWord, ← intercalate_append_eq_argsText]
      refine .angles (Enclosed.intercalate ?_ ?_) (.nil inside)
      · exact Enclosed.of_chars (by simp [isAngle])
      · intro text member
        obtain ⟨arg, listed, rfl⟩ := List.mem_map.mp member
        exact args arg listed
  | _ => exact .nil inside

/-- The separators in the text of a type stand inside angle brackets; those of a
wildcard do when the wildcard does. -/
private theorem DottedNames.enclosed_text
    (names : env.DottedNames) {symbols : List Symbol}
    (apart : env.NamesApart symbols) (type : Ty)
    (written : type.WrittenWith symbols) (inside : Bool)
    (allowed : inside = true ∨ type.isWildcard = false) :
    Enclosed inside (env.text type) := by
  -- As for reading, arguments are found below all array levels: the induction
  -- is on the size of the type.
  induction size : type.size using Nat.strongRecOn generalizing type inside with
  | ind bound inductionHypothesis =>
      have smaller (other : Ty) (less : other.size < type.size)
          (otherWritten : other.WrittenWith symbols) :
          Enclosed true (env.text other) :=
        inductionHypothesis other.size (size ▸ less) other otherWritten true
          (Or.inl rfl) rfl
      cases kind : type.isWildcard with
      | false =>
          obtain ⟨word, _, _, textEq⟩ := apart.exists_text_eq written kind
          rw [textEq]
          refine (enclosed_of_isNameChar inside
            (names.isNameChar_wordText word)).append
              ((enclosed_behindWord inside ?_).append
                (enclosed_brackets inside type.levels))
          intro arg member
          have small := type.size_innermost_le
          have argSmall := Ty.size_lt_of_mem_args member
          exact smaller arg (by omega) (written.innermost.arg member)
      | true =>
          rw [kind] at allowed
          obtain rfl : inside = true := by simpa using allowed
          cases type with
          | unbounded =>
              rw [text_unbounded]
              exact Enclosed.of_chars (by simp [isAngle])
          | upperBounded bound =>
              rw [text_upperBounded]
              exact (Enclosed.of_chars (by simp [isAngle])).append
                (smaller bound (by simp [Ty.size]) written.upperBound)
          | lowerBounded bound =>
              rw [text_lowerBounded]
              exact (Enclosed.of_chars (by simp [isAngle])).append
                (smaller bound (by simp [Ty.size]) written.lowerBound)
          | _ => cases kind

section

variable {type : Ty}

private theorem Writes.writtenWith (writes : env.Writes type) :
    type.WrittenWith type.symbols where
  listed := List.Subset.refl _
  placed := ((Ty.isPlaced_outside_iff type).mp writes.placed).1

private theorem Writes.not_isWildcard (writes : env.Writes type) :
    type.isWildcard = false :=
  ((Ty.isPlaced_outside_iff type).mp writes.placed).2

theorem DottedNames.enclosed
    (names : env.DottedNames) (writes : env.Writes type) :
    Enclosed false (env.text type) :=
  names.enclosed_text (names.namesApart writes.known) type writes.writtenWith
    false (Or.inr writes.not_isWildcard)

/-- A type starts with a word: a name, or the keyword of a primitive type. -/
private theorem DottedNames.exists_word
    (names : env.DottedNames) (writes : env.Writes type) :
    ∃ word rest, env.text type = env.wordText word ++ rest ∧
      StartsWithMark rest ∧ env.wordText word ≠ [] := by
  have apart := names.namesApart writes.known
  obtain ⟨word, _, listed, textEq⟩ :=
    apart.exists_text_eq writes.writtenWith writes.not_isWildcard
  refine ⟨word, _, textEq, ?_, apart.wordText_ne_nil listed⟩
  have nothing : EndsArgument [] := by
    intro character head
    cases head
  have mark := startsWithMark_brackets nothing type.levels
  rw [List.append_nil] at mark
  exact startsWithMark_behindWord mark type.innermost

theorem DottedNames.exists_cons_text
    (names : env.DottedNames) (writes : env.Writes type) :
    ∃ head tail, env.text type = head :: tail ∧ isNameChar head = true := by
  obtain ⟨word, rest, textEq, _, nonempty⟩ := names.exists_word writes
  obtain ⟨head, tail, wordEq⟩ := List.exists_cons_of_ne_nil nonempty
  have inName := names.isNameChar_wordText word head (by simp [wordEq])
  exact ⟨head, _, by rw [textEq, wordEq, List.cons_append], inName⟩

/-- A type is never written like a reserved word, the keywords of primitive types
apart. -/
theorem DottedNames.text_ne_of_reserved
    (names : env.DottedNames) (writes : env.Writes type) {word : String}
    (reserved : word ∈ reservedWords)
    (notPrimitive : Primitive.ofKeyword? word = none) :
    env.text type ≠ word.toList := by
  intro same
  obtain ⟨start, rest, textEq, mark, nonempty⟩ := names.exists_word writes
  have nothing : StartsWithMark [] := by
    intro character head
    cases head
  have noMarks {text : List Char}
      (inName : ∀ c ∈ text, isNameChar c = true) :
      ∀ c ∈ text, isMark c = false := fun c member =>
    (plain_of_isNameChar (inName c member)).2.2
  obtain ⟨sameWord, _⟩ := word_append_inj
    (noMarks (names.isNameChar_wordText start))
    (noMarks (isNameChar_of_mem_reservedWords reserved)) mark nothing
    (by rw [← textEq, same, List.append_nil])
  cases start with
  | keyword kind =>
      have isKeyword : kind.keyword = word := String.toList_injective sameWord
      rw [← isKeyword, Primitive.ofKeyword?_keyword] at notPrimitive
      cases notPrimitive
  | name symbol =>
      cases named : env.name? symbol with
      | none => simp [wordText, named] at nonempty
      | some name =>
          have isName : name = word := by
            apply String.toList_injective
            simpa [wordText, named] using sameWord
          exact (names.dotted symbol name named).not_mem_reservedWords
            (isName ▸ reserved)

/-- A type with a separator or nothing behind it can be read. -/
theorem DottedNames.text_append_inj
    (names : env.DottedNames) {first second : Ty} {rest rest' : List Char}
    (writes : env.Writes first) (writes' : env.Writes second)
    (stops : StartsWithSeparator rest) (stops' : StartsWithSeparator rest')
    (same : env.text first ++ rest = env.text second ++ rest') :
    first = second ∧ rest = rest' := by
  obtain ⟨sameText, sameRest⟩ := (names.enclosed writes).append_inj
    (names.enclosed writes') stops stops' same
  exact ⟨names.text_inj writes writes' sameText, sameRest⟩

end

end Env

namespace Model

/-- The names of all classes and type variables. -/
def declaredNames (model : Model) : List String :=
  model.classes.toList.map ClassDef.name ++
    model.typeVars.toList.map TypeVarDef.name

/-- Where the name of a symbol stands among all names. -/
def namePosition (model : Model) : Symbol → Nat
  | .cls id => id.toNat
  | .typeVar var => model.classes.size + var.toNat

private theorem getElem?_namePosition
    {model : Model} {symbol : Symbol} {name : String}
    (named : model.env.name? symbol = some name) :
    model.declaredNames[model.namePosition symbol]? = some name := by
  cases symbol with
  | cls id =>
      obtain ⟨definition, declared, rfl⟩ := Option.map_eq_some_iff.mp named
      have found : model.classes[id.toNat]? = some definition := declared
      obtain ⟨inside, _⟩ := Array.getElem?_eq_some_iff.mp found
      rw [declaredNames, namePosition, List.getElem?_append_left (by simpa)]
      simp [found]
  | typeVar var =>
      obtain ⟨definition, declared, rfl⟩ := Option.map_eq_some_iff.mp named
      have found : model.typeVars[var.toNat]? = some definition := declared
      rw [declaredNames, namePosition, List.getElem?_append_right (by simp)]
      simp [found]

/-- Symbols with names are told apart by the positions of their names. -/
private theorem eq_of_namePosition
    {model : Model} {first second : Symbol}
    (known : (model.env.name? first).isSome = true)
    (known' : (model.env.name? second).isSome = true)
    (same : model.namePosition first = model.namePosition second) :
    first = second := by
  have inside {id : ClassId}
      (idKnown : (model.env.name? (.cls id)).isSome = true) :
      id.toNat < model.classes.size := by
    obtain ⟨name, named⟩ := Option.isSome_iff_exists.mp idKnown
    obtain ⟨definition, declared, _⟩ := Option.map_eq_some_iff.mp named
    exact (Array.getElem?_eq_some_iff.mp declared).1
  cases first with
  | cls id =>
      cases second with
      | cls id' => rw [ClassId.toNat_inj.mp same]
      | typeVar var' =>
          have := inside known
          simp only [namePosition] at same
          omega
  | typeVar var =>
      cases second with
      | cls id' =>
          have := inside known'
          simp only [namePosition] at same
          omega
      | typeVar var' =>
          simp only [namePosition, Nat.add_left_cancel_iff] at same
          rw [TypeVarId.toNat_inj.mp same]

theorem dottedNames_env
    {model : Model} (dotted : ∀ name ∈ model.declaredNames, IsDotted name)
    (distinct : model.declaredNames.Nodup) : model.env.DottedNames where
  dotted symbol name named :=
    dotted name (List.mem_of_getElem? (getElem?_namePosition named))
  distinct first second name named named' := by
    have known : (model.env.name? first).isSome = true := by simp [named]
    have known' : (model.env.name? second).isSome = true := by simp [named']
    have found := getElem?_namePosition named
    have found' := getElem?_namePosition named'
    obtain ⟨inside, _⟩ := List.getElem?_eq_some_iff.mp found
    exact eq_of_namePosition known known'
      ((List.getElem?_inj inside distinct).mp (found.trans found'.symm))

end Model

end JavaTypes
