import JavaTypes.Proofs.ErasedTargets
import JavaTypes.Proofs.Extension
import JavaTypes.Proofs.WildcardPlacement

/-!
# Types can be told apart by their text

A type is written with names and a few marks: brackets, commas, question marks
and spaces.  Suppose no name contains a mark or looks like a keyword, different
symbols have different names, and wildcards stand in place.  Then the qualified
text of a type determines the type.

The text is read from the left.  A type starts with a question mark or with a
word, and the word ends at the first mark.  What follows the word shows whether
there are arguments and how many array levels there are.  Inside an argument list
a type ends at a comma or at the closing bracket, so the statement that goes
through by induction is about texts with something behind them.
-/

namespace JavaTypes

/-- The characters that are written around names. -/
def isMark (character : Char) : Bool :=
  ['<', '>', '[', ']', ',', '?', ' '].contains character

/-- A name that cannot be confused with anything else in the text of a type. -/
def isPlainName (name : String) : Bool :=
  name != "" && (Primitive.ofKeyword? name).isNone &&
    name.toList.all fun character => !isMark character

/-- A text ends here, or goes on with a mark. -/
def StartsWithMark (text : List Char) : Prop :=
  ∀ character ∈ text.head?, isMark character = true

/-- What may stand behind an argument: nothing, a comma, or the bracket that
closes the list. -/
def EndsArgument (text : List Char) : Prop :=
  ∀ character ∈ text.head?, character = ',' ∨ character = '>'

theorem StartsWithMark.head
    {first : Char} {rest : List Char} (mark : StartsWithMark (first :: rest)) :
    isMark first = true :=
  mark first rfl

theorem EndsArgument.head
    {first : Char} {rest : List Char} (ends : EndsArgument (first :: rest)) :
    first = ',' ∨ first = '>' :=
  ends first rfl

private theorem EndsArgument.startsWithMark
    {text : List Char} (ends : EndsArgument text) : StartsWithMark text := by
  intro character first
  rcases ends character first with rfl | rfl <;> rfl

/-- A word ends at the first mark. -/
theorem word_append_inj
    {first second rest rest' : List Char}
    (firstPlain : ∀ character ∈ first, isMark character = false)
    (secondPlain : ∀ character ∈ second, isMark character = false)
    (mark : StartsWithMark rest) (mark' : StartsWithMark rest')
    (same : first ++ rest = second ++ rest') :
    first = second ∧ rest = rest' := by
  induction first generalizing second with
  | nil =>
      cases second with
      | nil => exact ⟨rfl, same⟩
      | cons head tail =>
          have plain := secondPlain head List.mem_cons_self
          have starts : rest = head :: (tail ++ rest') := same
          rw [starts] at mark
          simp [mark.head] at plain
  | cons head tail inductionHypothesis =>
      cases second with
      | nil =>
          have plain := firstPlain head List.mem_cons_self
          have starts : head :: (tail ++ rest) = rest' := same
          rw [← starts] at mark'
          simp [mark'.head] at plain
      | cons head' tail' =>
          simp only [List.cons_append, List.cons.injEq] at same
          obtain ⟨rfl, sameTail⟩ := same
          obtain ⟨rfl, sameRest⟩ := inductionHypothesis
            (fun character member =>
              firstPlain character (List.mem_cons_of_mem _ member))
            (fun character member =>
              secondPlain character (List.mem_cons_of_mem _ member))
            sameTail
          exact ⟨rfl, sameRest⟩

/-! ## Array levels -/

/-- The text of some array levels. -/
def brackets : Nat → List Char
  | 0 => []
  | count + 1 => '[' :: ']' :: brackets count

private theorem brackets_succ (count : Nat) :
    brackets (count + 1) = brackets count ++ ['[', ']'] := by
  induction count with
  | zero => rfl
  | succ count inductionHypothesis =>
      change '[' :: ']' :: brackets (count + 1) =
        '[' :: ']' :: (brackets count ++ ['[', ']'])
      rw [inductionHypothesis]

private theorem brackets_append_ne
    {rest : List Char} (ends : EndsArgument rest) (count : Nat)
    (text : List Char) : brackets count ++ rest ≠ '<' :: text := by
  intro same
  cases count with
  | zero =>
      have opened : rest = '<' :: text := same
      rw [opened] at ends
      simpa using ends.head
  | succ count => cases same

theorem startsWithMark_brackets
    {rest : List Char} (ends : EndsArgument rest) (count : Nat) :
    StartsWithMark (brackets count ++ rest) := by
  cases count with
  | zero => exact ends.startsWithMark
  | succ count =>
      intro character first
      cases first
      rfl

private theorem brackets_append_inj
    {count count' : Nat} {rest rest' : List Char}
    (ends : EndsArgument rest) (ends' : EndsArgument rest')
    (same : brackets count ++ rest = brackets count' ++ rest') :
    count = count' ∧ rest = rest' := by
  induction count generalizing count' with
  | zero =>
      cases count' with
      | zero => exact ⟨rfl, same⟩
      | succ count' =>
          have starts : rest = '[' :: ']' :: (brackets count' ++ rest') := same
          rw [starts] at ends
          simpa using ends.head
  | succ count inductionHypothesis =>
      cases count' with
      | zero =>
          have starts : '[' :: ']' :: (brackets count ++ rest) = rest' := same
          rw [← starts] at ends'
          simpa using ends'.head
      | succ count' =>
          have inner : brackets count ++ rest = brackets count' ++ rest' := by
            simpa [brackets] using same
          obtain ⟨rfl, sameRest⟩ := inductionHypothesis inner
          exact ⟨rfl, sameRest⟩

/-! ## Words and symbols -/

/-- What a type starts with that is neither a wildcard nor an array. -/
inductive Word where
  | keyword (kind : Primitive)
  | name (symbol : Symbol)

/-- A word that is a name is that of one of the symbols. -/
def Word.ListedIn (symbols : List Symbol) : Word → Prop
  | .keyword _ => True
  | .name symbol => symbol ∈ symbols

namespace Ty

/-- The number of array levels of a type. -/
def levels : Ty → Nat
  | .array element => levels element + 1
  | _ => 0

private theorem levels_eq_zero
    {type : Ty} (notArray : ∀ element, type = .array element → False) :
    type.levels = 0 := by
  cases type with
  | array element => exact (notArray element rfl).elim
  | _ => rfl

private theorem eq_of_innermost_of_levels
    {first second : Ty} (sameInnermost : first.innermost = second.innermost)
    (sameLevels : first.levels = second.levels) : first = second := by
  fun_induction innermost first generalizing second with
  | case1 element inductionHypothesis =>
      cases second with
      | array element' =>
          have innerLevels : element.levels = element'.levels :=
            Nat.succ.inj sameLevels
          have sameElement : element = element' :=
            inductionHypothesis sameInnermost innerLevels
          rw [sameElement]
      | _ => simp [levels] at sameLevels
  | case2 type notArray =>
      rw [levels_eq_zero notArray] at sameLevels
      cases second with
      | array element' => simp [levels] at sameLevels
      | _ => exact sameInnermost

def word? : Ty → Option Word
  | .primitive kind => some (.keyword kind)
  | .cls id => some (.name (.cls id))
  | .typeVar var => some (.name (.typeVar var))
  | .parameterized erasure _ => some (.name (.cls erasure))
  | _ => none

/-- The type is written with the given symbols, its wildcards in place. -/
structure WrittenWith (symbols : List Symbol) (type : Ty) : Prop where
  listed : type.symbols ⊆ symbols
  placed : type.isPlaced .argument = true

variable {symbols : List Symbol}

theorem WrittenWith.arg
    {type arg : Ty} (written : type.WrittenWith symbols)
    (member : arg ∈ type.args) : arg.WrittenWith symbols := by
  cases type with
  | parameterized erasure args =>
      refine ⟨?_, (arePlaced_iff args).mp written.placed arg member⟩
      intro symbol occurs
      have inArgs := symbols_subset_symbolsList member occurs
      exact written.listed (List.mem_cons_of_mem _ inArgs)
  | _ => cases member

theorem WrittenWith.upperBound
    {bound : Ty} (written : WrittenWith symbols (.upperBounded bound)) :
    bound.WrittenWith symbols where
  listed := written.listed
  placed := ((isPlaced_outside_iff bound).mp written.placed).1

theorem WrittenWith.lowerBound
    {bound : Ty} (written : WrittenWith symbols (.lowerBounded bound)) :
    bound.WrittenWith symbols where
  listed := written.listed
  placed := ((isPlaced_outside_iff bound).mp written.placed).1

theorem WrittenWith.innermost
    {type : Ty} (written : type.WrittenWith symbols) :
    type.innermost.WrittenWith symbols := by
  fun_induction Ty.innermost type with
  | case1 element inductionHypothesis =>
      have placed := ((isPlaced_outside_iff element).mp written.placed).1
      exact inductionHypothesis ⟨written.listed, placed⟩
  | case2 type notArray => exact written

private theorem WrittenWith.listedIn
    {type : Ty} (written : type.WrittenWith symbols) {word : Word}
    (shape : type.word? = some word) : word.ListedIn symbols := by
  cases type with
  | primitive kind =>
      cases shape
      trivial
  | cls id =>
      cases shape
      exact written.listed List.mem_cons_self
  | typeVar var =>
      cases shape
      exact written.listed List.mem_cons_self
  | parameterized erasure args =>
      cases shape
      exact written.listed List.mem_cons_self
  | _ => cases shape

theorem size_lt_of_mem_args
    {type arg : Ty} (member : arg ∈ type.args) : arg.size < type.size := by
  cases type with
  | parameterized erasure args =>
      have small : arg.size ≤ sizeList args := size_le_sizeList member
      simp only [size]
      omega
  | _ => cases member

theorem size_innermost_le (type : Ty) : type.innermost.size ≤ type.size := by
  fun_induction innermost type with
  | case1 element inductionHypothesis =>
      simp only [size]
      omega
  | case2 type notArray => exact Nat.le_refl _

/-- Below its array levels a type that is no wildcard starts with a word. -/
private theorem exists_word_innermost
    {type : Ty} (placed : type.isPlaced .outside = true) :
    ∃ word, type.innermost.word? = some word := by
  fun_induction innermost type with
  | case1 element inductionHypothesis => exact inductionHypothesis placed
  | case2 type notArray => cases type <;> simp_all [word?, isPlaced]

end Ty

namespace Env

/-! ## The text of a type -/

/-- The qualified text of a type, by characters. -/
def text (env : Env) (type : Ty) : List Char :=
  (env.render .qualified type).toList

/-- The text of arguments that follow another one, up to the closing bracket. -/
def laterArgsText (env : Env) : List Ty → List Char
  | [] => ['>']
  | arg :: args => ',' :: ' ' :: (env.text arg ++ laterArgsText env args)

/-- The text of arguments, up to the closing bracket. -/
def argsText (env : Env) : List Ty → List Char
  | [] => ['>']
  | arg :: args => env.text arg ++ env.laterArgsText args

def wordText (env : Env) : Word → List Char
  | .keyword kind => kind.keyword.toList
  | .name symbol => ((env.name? symbol).getD "").toList

/-- What follows the word that a type starts with. -/
def behindWord (env : Env) : Ty → List Char
  | .parameterized _ args => '<' :: env.argsText args
  | _ => []

variable {env : Env}

theorem intercalate_append_eq_argsText (args : List Ty) :
    [',', ' '].intercalate (args.map env.text) ++ ['>'] = env.argsText args := by
  cases args with
  | nil => rfl
  | cons first rest =>
      induction rest generalizing first with
      | nil => simp [argsText, laterArgsText]
      | cons second rest inductionHypothesis =>
          have later := inductionHypothesis second
          simp only [List.map_cons, argsText] at later
          simp [List.intercalate_cons_cons, argsText, laterArgsText, later]

private theorem text_parameterized (erasure : ClassId) (args : List Ty) :
    env.text (.parameterized erasure args) =
      (env.renderClass .qualified erasure).toList ++ '<' :: env.argsText args := by
  have texts : (env.renderArgs .qualified args).map String.toList =
      args.map env.text := by
    rw [renderArgs_eq_map, List.map_map]
    rfl
  rw [← intercalate_append_eq_argsText]
  simp [text, render, String.toList_intercalate, texts]

theorem text_unbounded : env.text .unbounded = ['?'] := by
  simp [text, render]

theorem text_upperBounded (bound : Ty) :
    env.text (.upperBounded bound) =
      ['?', ' ', 'e', 'x', 't', 'e', 'n', 'd', 's', ' '] ++ env.text bound := by
  simp [text, render]

theorem text_lowerBounded (bound : Ty) :
    env.text (.lowerBounded bound) =
      ['?', ' ', 's', 'u', 'p', 'e', 'r', ' '] ++ env.text bound := by
  simp [text, render]

private theorem text_eq_innermost (type : Ty) :
    env.text type = env.text type.innermost ++ brackets type.levels := by
  fun_induction Ty.innermost type with
  | case1 element inductionHypothesis =>
      have arrayText : env.text (.array element) = env.text element ++ ['[', ']'] := by
        simp [text, render]
      rw [arrayText, inductionHypothesis, Ty.levels, brackets_succ,
        List.append_assoc]
  | case2 type notArray =>
      simp [Ty.levels_eq_zero notArray, brackets]

private theorem text_of_word?
    {type : Ty} {word : Word} (shape : type.word? = some word)
    (known : env.Knows type) :
    env.text type = env.wordText word ++ env.behindWord type := by
  cases type with
  | primitive kind =>
      cases shape
      simp [text, render, wordText, behindWord]
  | cls id =>
      cases shape
      obtain ⟨definition, declared⟩ :=
        Option.isSome_iff_exists.mp (knows_cls_iff.mp known)
      simp [text, render, wordText, behindWord, renderClass, name?, declared,
        NameStyle.write]
  | typeVar var =>
      cases shape
      obtain ⟨definition, declared⟩ :=
        Option.isSome_iff_exists.mp (knows_typeVar_iff.mp known)
      simp [text, render, wordText, behindWord, renderTypeVar, name?, declared]
  | parameterized erasure args =>
      cases shape
      obtain ⟨definition, declared⟩ :=
        Option.isSome_iff_exists.mp (knows_cls_iff.mp known.erasure)
      simp [text_parameterized, wordText, behindWord, renderClass, name?,
        declared, NameStyle.write]
  | _ => cases shape

/-! ## Names that tell symbols apart -/

/-- The symbols are known by plain names, and different symbols by different
names. -/
structure NamesApart (env : Env) (symbols : List Symbol) : Prop where
  plain : ∀ symbol ∈ symbols, (env.name? symbol).any isPlainName = true
  distinct : ∀ first ∈ symbols, ∀ second ∈ symbols,
    env.name? first = env.name? second → first = second

variable {symbols : List Symbol}

private theorem NamesApart.exists_name
    (names : env.NamesApart symbols) {symbol : Symbol}
    (listed : symbol ∈ symbols) :
    ∃ name, env.name? symbol = some name ∧ name ≠ "" ∧
      Primitive.ofKeyword? name = none ∧
        ∀ character ∈ name.toList, isMark character = false := by
  have plain := names.plain symbol listed
  cases named : env.name? symbol with
  | none => simp [named] at plain
  | some name =>
      simp only [named, Option.any_some, isPlainName, Bool.and_eq_true,
        bne_iff_ne, Option.isNone_iff_eq_none, List.all_eq_true,
        Bool.not_eq_true'] at plain
      obtain ⟨⟨nonempty, noKeyword⟩, noMarks⟩ := plain
      exact ⟨name, rfl, nonempty, noKeyword, noMarks⟩

private theorem NamesApart.knows
    (names : env.NamesApart symbols) {type : Ty}
    (written : type.WrittenWith symbols) : env.Knows type := by
  intro symbol occurs
  obtain ⟨name, named, _⟩ := names.exists_name (written.listed occurs)
  simp [named]

theorem NamesApart.wordText_ne_nil
    (names : env.NamesApart symbols) {word : Word}
    (listed : word.ListedIn symbols) : env.wordText word ≠ [] := by
  cases word with
  | keyword kind => cases kind <;> simp [wordText, Primitive.keyword]
  | name symbol =>
      obtain ⟨name, named, nonempty, _⟩ := names.exists_name listed
      simpa [wordText, named] using nonempty

private theorem NamesApart.isMark_wordText
    (names : env.NamesApart symbols) {word : Word}
    (listed : word.ListedIn symbols) :
    ∀ character ∈ env.wordText word, isMark character = false := by
  cases word with
  | keyword kind => cases kind <;> simp [wordText, Primitive.keyword, isMark]
  | name symbol =>
      obtain ⟨name, named, _, _, noMarks⟩ := names.exists_name listed
      simpa [wordText, named] using noMarks

/-- A name is never the keyword of a primitive type. -/
private theorem NamesApart.wordText_keyword_ne
    (names : env.NamesApart symbols) {symbol : Symbol}
    (listed : symbol ∈ symbols) (kind : Primitive) :
    env.wordText (.keyword kind) ≠ env.wordText (.name symbol) := by
  intro same
  obtain ⟨name, named, _, noKeyword, _⟩ := names.exists_name listed
  have sameName : kind.keyword = name := by
    apply String.toList_injective
    simpa [wordText, named] using same
  rw [← sameName, Primitive.ofKeyword?_keyword] at noKeyword
  cases noKeyword

private theorem NamesApart.wordText_inj
    (names : env.NamesApart symbols) {first second : Word}
    (firstListed : first.ListedIn symbols)
    (secondListed : second.ListedIn symbols)
    (same : env.wordText first = env.wordText second) : first = second := by
  cases first with
  | keyword kind =>
      cases second with
      | keyword kind' =>
          have sameKeyword : kind.keyword = kind'.keyword :=
            String.toList_injective same
          have sameKind := Primitive.ofKeyword?_keyword kind
          rw [sameKeyword, Primitive.ofKeyword?_keyword] at sameKind
          cases sameKind
          rfl
      | name symbol =>
          exact absurd same (names.wordText_keyword_ne secondListed kind)
  | name symbol =>
      cases second with
      | keyword kind =>
          exact absurd same.symm (names.wordText_keyword_ne firstListed kind)
      | name symbol' =>
          obtain ⟨name, named, _⟩ := names.exists_name firstListed
          obtain ⟨name', named', _⟩ := names.exists_name secondListed
          have sameName : name = name' := by
            apply String.toList_injective
            simpa [wordText, named, named'] using same
          have sameSymbol := names.distinct symbol firstListed symbol'
            secondListed (by rw [named, named', sameName])
          rw [sameSymbol]

/-! ## How a text starts -/

theorem NamesApart.exists_text_eq
    (names : env.NamesApart symbols) {type : Ty}
    (written : type.WrittenWith symbols)
    (noWildcard : type.isWildcard = false) :
    ∃ word, type.innermost.word? = some word ∧ word.ListedIn symbols ∧
      env.text type =
        env.wordText word ++
          (env.behindWord type.innermost ++ brackets type.levels) := by
  have placed := (Ty.isPlaced_outside_iff type).mpr
    ⟨written.placed, noWildcard⟩
  obtain ⟨word, shape⟩ := Ty.exists_word_innermost placed
  have inner := written.innermost
  refine ⟨word, shape, inner.listedIn shape, ?_⟩
  rw [text_eq_innermost, text_of_word? shape (names.knows inner),
    List.append_assoc]

theorem NamesApart.exists_cons_text
    (names : env.NamesApart symbols) {type : Ty}
    (written : type.WrittenWith symbols)
    (noWildcard : type.isWildcard = false) :
    ∃ head tail, env.text type = head :: tail ∧ isMark head = false := by
  obtain ⟨word, _, listed, textEq⟩ := names.exists_text_eq written noWildcard
  obtain ⟨head, tail, wordEq⟩ :=
    List.exists_cons_of_ne_nil (names.wordText_ne_nil listed)
  have plain := names.isMark_wordText listed head (by simp [wordEq])
  exact ⟨head, _, by rw [textEq, wordEq, List.cons_append], plain⟩

private theorem exists_cons_text_of_isWildcard
    (env : Env) {type : Ty} (isWildcard : type.isWildcard = true) :
    ∃ tail, env.text type = '?' :: tail := by
  cases type with
  | unbounded => exact ⟨[], text_unbounded⟩
  | upperBounded bound => exact ⟨_, text_upperBounded bound⟩
  | lowerBounded bound => exact ⟨_, text_lowerBounded bound⟩
  | _ => cases isWildcard

/-- The first character shows whether a type is a wildcard. -/
private theorem NamesApart.text_append_ne
    (names : env.NamesApart symbols) {first second : Ty}
    (written : first.WrittenWith symbols)
    (noWildcard : first.isWildcard = false)
    (isWildcard : second.isWildcard = true) (rest rest' : List Char) :
    env.text first ++ rest ≠ env.text second ++ rest' := by
  intro same
  obtain ⟨head, tail, firstText, plain⟩ :=
    names.exists_cons_text written noWildcard
  obtain ⟨tail', secondText⟩ := exists_cons_text_of_isWildcard env isWildcard
  simp only [firstText, secondText, List.cons_append, List.cons.injEq] at same
  rw [same.1] at plain
  cases plain

/-! ## Reading a text -/

/-- The text of a type, with something behind that may follow an argument, is
that of no other type, and shows where the type ends. -/
def Readable (env : Env) (symbols : List Symbol) (first : Ty) : Prop :=
  ∀ second, second.WrittenWith symbols →
    ∀ rest rest', EndsArgument rest → EndsArgument rest' →
      env.text first ++ rest = env.text second ++ rest' →
        first = second ∧ rest = rest'

private theorem endsArgument_laterArgsText (args : List Ty) (rest : List Char) :
    EndsArgument (env.laterArgsText args ++ rest) := by
  cases args with
  | nil =>
      intro character first
      cases first
      exact Or.inr rfl
  | cons arg args =>
      intro character first
      cases first
      exact Or.inl rfl

private theorem laterArgsText_append_inj
    {args args' : List Ty} {rest rest' : List Char}
    (readable : ∀ arg ∈ args, env.Readable symbols arg)
    (written : ∀ arg ∈ args', arg.WrittenWith symbols)
    (same : env.laterArgsText args ++ rest = env.laterArgsText args' ++ rest') :
    args = args' ∧ rest = rest' := by
  induction args generalizing args' with
  | nil =>
      cases args' with
      | nil => exact ⟨rfl, by simpa [laterArgsText] using same⟩
      | cons arg' args' => simp [laterArgsText] at same
  | cons arg args inductionHypothesis =>
      cases args' with
      | nil => simp [laterArgsText] at same
      | cons arg' args' =>
          simp only [laterArgsText, List.cons_append, List.append_assoc,
            List.cons.injEq, true_and] at same
          obtain ⟨rfl, sameLater⟩ := readable arg List.mem_cons_self arg'
            (written arg' List.mem_cons_self) _ _
            (endsArgument_laterArgsText args rest)
            (endsArgument_laterArgsText args' rest') same
          obtain ⟨rfl, sameRest⟩ := inductionHypothesis
            (fun other member => readable other (List.mem_cons_of_mem _ member))
            (fun other member => written other (List.mem_cons_of_mem _ member))
            sameLater
          exact ⟨rfl, sameRest⟩

/-- No type starts with the bracket that closes an argument list. -/
private theorem NamesApart.text_append_ne_close
    (names : env.NamesApart symbols) {type : Ty}
    (written : type.WrittenWith symbols) (rest rest' : List Char) :
    env.text type ++ rest ≠ '>' :: rest' := by
  intro same
  cases kind : type.isWildcard with
  | false =>
      obtain ⟨head, tail, textEq, plain⟩ := names.exists_cons_text written kind
      simp only [textEq, List.cons_append, List.cons.injEq] at same
      rw [same.1] at plain
      cases plain
  | true =>
      obtain ⟨tail, textEq⟩ := exists_cons_text_of_isWildcard env kind
      simp [textEq] at same

private theorem NamesApart.argsText_append_inj
    (names : env.NamesApart symbols)
    {args args' : List Ty} {rest rest' : List Char}
    (readable : ∀ arg ∈ args, env.Readable symbols arg)
    (written : ∀ arg ∈ args, arg.WrittenWith symbols)
    (written' : ∀ arg ∈ args', arg.WrittenWith symbols)
    (same : env.argsText args ++ rest = env.argsText args' ++ rest') :
    args = args' ∧ rest = rest' := by
  cases args with
  | nil =>
      cases args' with
      | nil => exact ⟨rfl, by simpa [argsText] using same⟩
      | cons arg' args' =>
          simp only [argsText, List.append_assoc, List.singleton_append] at same
          have argWritten := written' arg' List.mem_cons_self
          exact absurd same.symm (names.text_append_ne_close argWritten _ _)
  | cons arg args =>
      cases args' with
      | nil =>
          simp only [argsText, List.append_assoc, List.singleton_append] at same
          have argWritten := written arg List.mem_cons_self
          exact absurd same (names.text_append_ne_close argWritten _ _)
      | cons arg' args' =>
          -- With the separator in front, both lists are arguments that follow.
          apply laterArgsText_append_inj readable written'
          simpa [laterArgsText, argsText] using same

/-- After equal words, what is left tells the arguments and the array levels. -/
private theorem NamesApart.behindWord_append_inj
    (names : env.NamesApart symbols) {first second : Ty} {word : Word}
    (firstShape : first.word? = some word)
    (secondShape : second.word? = some word)
    (readable : ∀ arg ∈ first.args, env.Readable symbols arg)
    (firstWritten : first.WrittenWith symbols)
    (secondWritten : second.WrittenWith symbols)
    {count count' : Nat} {rest rest' : List Char}
    (ends : EndsArgument rest) (ends' : EndsArgument rest')
    (same : env.behindWord first ++ (brackets count ++ rest) =
      env.behindWord second ++ (brackets count' ++ rest')) :
    first = second ∧ count = count' ∧ rest = rest' := by
  cases first with
  | primitive kind =>
      cases firstShape
      cases second <;> cases secondShape
      exact ⟨rfl, brackets_append_inj ends ends' same⟩
  | typeVar var =>
      cases firstShape
      cases second <;> cases secondShape
      exact ⟨rfl, brackets_append_inj ends ends' same⟩
  | cls id =>
      cases firstShape
      cases second <;> cases secondShape
      · exact ⟨rfl, brackets_append_inj ends ends' same⟩
      · -- The same class raw and applied: only one text goes on with a bracket.
        exact absurd same (brackets_append_ne ends count _)
  | parameterized erasure args =>
      cases firstShape
      cases second <;> cases secondShape
      · exact absurd same.symm (brackets_append_ne ends' count' _)
      · rename_i args'
        have sameArgs : env.argsText args ++ (brackets count ++ rest) =
            env.argsText args' ++ (brackets count' ++ rest') := by
          simpa [behindWord] using same
        obtain ⟨rfl, sameLevels⟩ := names.argsText_append_inj readable
          (fun arg member => firstWritten.arg member)
          (fun arg member => secondWritten.arg member) sameArgs
        exact ⟨rfl, brackets_append_inj ends ends' sameLevels⟩
  | _ => cases firstShape

/-- A wildcard without a bound is not followed by a space. -/
private theorem text_unbounded_append_ne
    {rest : List Char} (ends : EndsArgument rest) (tail : List Char) :
    env.text .unbounded ++ rest ≠ '?' :: ' ' :: tail := by
  intro same
  have space : rest = ' ' :: tail := by
    simpa [text_unbounded] using same
  rw [space] at ends
  simpa using ends.head

private theorem text_append_inj_of_isWildcard
    {first second : Ty} (firstKind : first.isWildcard = true)
    (secondKind : second.isWildcard = true)
    (firstWritten : first.WrittenWith symbols)
    (secondWritten : second.WrittenWith symbols)
    (readable : ∀ type, type.size < first.size → type.WrittenWith symbols →
      env.Readable symbols type)
    {rest rest' : List Char}
    (ends : EndsArgument rest) (ends' : EndsArgument rest')
    (same : env.text first ++ rest = env.text second ++ rest') :
    first = second ∧ rest = rest' := by
  cases first with
  | unbounded =>
      cases second with
      | unbounded => exact ⟨rfl, List.append_cancel_left same⟩
      | upperBounded bound' =>
          rw [text_upperBounded] at same
          exact absurd same (text_unbounded_append_ne ends _)
      | lowerBounded bound' =>
          rw [text_lowerBounded] at same
          exact absurd same (text_unbounded_append_ne ends _)
      | _ => cases secondKind
  | upperBounded bound =>
      have smaller : bound.size < (Ty.upperBounded bound).size := by
        simp [Ty.size]
      cases second with
      | unbounded =>
          rw [text_upperBounded] at same
          exact absurd same.symm (text_unbounded_append_ne ends' _)
      | upperBounded bound' =>
          simp only [text_upperBounded, List.append_assoc] at same
          obtain ⟨rfl, sameRest⟩ := readable bound smaller
            firstWritten.upperBound bound' secondWritten.upperBound rest rest'
            ends ends' (List.append_cancel_left same)
          exact ⟨rfl, sameRest⟩
      | lowerBounded bound' =>
          simp [text_upperBounded, text_lowerBounded] at same
      | _ => cases secondKind
  | lowerBounded bound =>
      have smaller : bound.size < (Ty.lowerBounded bound).size := by
        simp [Ty.size]
      cases second with
      | unbounded =>
          rw [text_lowerBounded] at same
          exact absurd same.symm (text_unbounded_append_ne ends' _)
      | upperBounded bound' =>
          simp [text_upperBounded, text_lowerBounded] at same
      | lowerBounded bound' =>
          simp only [text_lowerBounded, List.append_assoc] at same
          obtain ⟨rfl, sameRest⟩ := readable bound smaller
            firstWritten.lowerBound bound' secondWritten.lowerBound rest rest'
            ends ends' (List.append_cancel_left same)
          exact ⟨rfl, sameRest⟩
      | _ => cases secondKind
  | _ => cases firstKind

theorem startsWithMark_behindWord
    {rest : List Char} (mark : StartsWithMark rest) (type : Ty) :
    StartsWithMark (env.behindWord type ++ rest) := by
  cases type with
  | parameterized erasure args =>
      intro character first
      cases first
      rfl
  | _ => exact mark

private theorem NamesApart.text_append_inj_of_word
    (names : env.NamesApart symbols) {first second : Ty}
    (firstKind : first.isWildcard = false)
    (secondKind : second.isWildcard = false)
    (firstWritten : first.WrittenWith symbols)
    (secondWritten : second.WrittenWith symbols)
    (readable : ∀ type, type.size < first.size → type.WrittenWith symbols →
      env.Readable symbols type)
    {rest rest' : List Char}
    (ends : EndsArgument rest) (ends' : EndsArgument rest')
    (same : env.text first ++ rest = env.text second ++ rest') :
    first = second ∧ rest = rest' := by
  obtain ⟨word, shape, listed, textEq⟩ :=
    names.exists_text_eq firstWritten firstKind
  obtain ⟨word', shape', listed', textEq'⟩ :=
    names.exists_text_eq secondWritten secondKind
  simp only [textEq, textEq', List.append_assoc] at same
  obtain ⟨sameWord, sameBehind⟩ := word_append_inj
    (names.isMark_wordText listed) (names.isMark_wordText listed')
    (startsWithMark_behindWord (startsWithMark_brackets ends _) _)
    (startsWithMark_behindWord (startsWithMark_brackets ends' _) _) same
  have sameShape := names.wordText_inj listed listed' sameWord
  rw [← sameShape] at shape'
  have inner := firstWritten.innermost
  have argsReadable : ∀ arg ∈ first.innermost.args,
      env.Readable symbols arg := by
    intro arg member
    have small := first.size_innermost_le
    apply readable arg
    · have argSmall := Ty.size_lt_of_mem_args member
      omega
    · exact inner.arg member
  obtain ⟨sameInnermost, sameLevels, sameRest⟩ :=
    names.behindWord_append_inj shape shape' argsReadable inner
      secondWritten.innermost ends ends' sameBehind
  exact ⟨Ty.eq_of_innermost_of_levels sameInnermost sameLevels, sameRest⟩

theorem NamesApart.readable
    (names : env.NamesApart symbols) (type : Ty)
    (written : type.WrittenWith symbols) : env.Readable symbols type := by
  -- The arguments that are read next stand below all array levels, so they are
  -- no direct parts of the type: the induction is on its size.
  induction size : type.size using Nat.strongRecOn generalizing type with
  | ind bound inductionHypothesis =>
      have smallerReadable : ∀ smaller, smaller.size < type.size →
          smaller.WrittenWith symbols → env.Readable symbols smaller := by
        intro smaller less smallerWritten
        exact inductionHypothesis smaller.size (size ▸ less) smaller
          smallerWritten rfl
      intro second secondWritten rest rest' ends ends' same
      cases firstKind : type.isWildcard <;>
        cases secondKind : second.isWildcard
      · exact names.text_append_inj_of_word firstKind secondKind written
          secondWritten smallerReadable ends ends' same
      · exact absurd same
          (names.text_append_ne written firstKind secondKind rest rest')
      · exact absurd same.symm
          (names.text_append_ne secondWritten secondKind firstKind rest' rest)
      · exact text_append_inj_of_isWildcard firstKind secondKind written
          secondWritten smallerReadable ends ends' same

end Env

namespace Model

/-- Two types are equal if and only if their qualified texts are, as long as the
names of their symbols can be told apart and their wildcards stand in place. -/
theorem rendering_tells_types_apart (model : Model) (first second : Ty)
    (names : model.env.NamesApart (first.symbols ++ second.symbols))
    (firstPlaced : first.isPlaced .argument = true)
    (secondPlaced : second.isPlaced .argument = true) :
    model.render .qualified first = model.render .qualified second ↔
      first = second := by
  constructor
  · intro sameText
    have firstWritten : first.WrittenWith (first.symbols ++ second.symbols) :=
      ⟨List.subset_append_left _ _, firstPlaced⟩
    have secondWritten : second.WrittenWith (first.symbols ++ second.symbols) :=
      ⟨List.subset_append_right _ _, secondPlaced⟩
    have nothing : EndsArgument [] := by
      intro character head
      cases head
    have same : model.env.text first ++ [] = model.env.text second ++ [] := by
      rw [List.append_nil, List.append_nil]
      exact congrArg String.toList sameText
    exact (names.readable first firstWritten second secondWritten [] [] nothing
      nothing same).1
  · rintro rfl
    rfl

/-- The skeleton writes `Map<? extends List<String>[], T>` and
`Map<? extends List<String[]>, T>` differently. -/
theorem rendering_tells_skeleton_types_apart :
    let first : Ty := .parameterized (.ofNat 14)
      [.upperBounded (.array (.parameterized (.ofNat 12) [.cls (.ofNat 6)])),
        .typeVar (.ofNat 0)]
    let second : Ty := .parameterized (.ofNat 14)
      [.upperBounded (.parameterized (.ofNat 12) [.array (.cls (.ofNat 6))]),
        .typeVar (.ofNat 0)]
    skeleton.env.NamesApart (first.symbols ++ second.symbols) ∧
      first.isPlaced .argument = true ∧ second.isPlaced .argument = true ∧
        skeleton.render .qualified first ≠
          skeleton.render .qualified second := by
  intro first second
  have names : skeleton.env.NamesApart (first.symbols ++ second.symbols) :=
    ⟨by decide +kernel, by decide +kernel⟩
  have differ : first ≠ second := by decide
  refine ⟨names, by decide, by decide, ?_⟩
  intro same
  exact differ ((rendering_tells_types_apart skeleton first second names
    (by decide) (by decide)).mp same)

end Model

end JavaTypes
