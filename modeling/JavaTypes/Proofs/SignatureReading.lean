import JavaTypes.Proofs.SeparatedTexts
import JavaTypes.Proofs.StringLiterals
import JavaTypes.Proofs.VariableBounds

/-!
# Reading signatures

The signature of a variable holds its annotations, modifiers, type and name, with
single spaces between them.  All of these can be read from it again, one after
the other from the front:

* a string literal ends with its closing quote;
* the other values, types, names and keywords end at the first separator outside
  of angle brackets;
* annotations start with `@`, and no keyword of a modifier is written like a
  type, so the type is the first part that is neither an annotation nor such a
  keyword.

A sole member called `value` is written without its name.  This is told from
members with names by the separator that comes first: a closing parenthesis
behind a value, a space behind a name.
-/

namespace JavaTypes

/-! ## Parts in a row -/

/-- Parts can be read one after the other if each of them can, and if none is
mistaken for what stands behind the last one. -/
private theorem flatMap_append_inj
    {α : Type} {write : α → List Char} {IsPart : α → Prop}
    {Behind : List Char → Prop}
    (readable : ∀ {first second rest rest'}, IsPart first → IsPart second →
      write first ++ rest = write second ++ rest' →
        first = second ∧ rest = rest')
    (ends : ∀ {part rest behind}, IsPart part → Behind behind →
      write part ++ rest ≠ behind)
    {firsts seconds : List α} {rest rest' : List Char}
    (parts : ∀ part ∈ firsts, IsPart part)
    (parts' : ∀ part ∈ seconds, IsPart part)
    (behind : Behind rest) (behind' : Behind rest')
    (same : firsts.flatMap write ++ rest = seconds.flatMap write ++ rest') :
    firsts = seconds ∧ rest = rest' := by
  induction firsts generalizing seconds with
  | nil =>
      cases seconds with
      | nil => exact ⟨rfl, same⟩
      | cons second seconds =>
          rw [List.flatMap_cons, List.append_assoc] at same
          exact absurd same.symm (ends (parts' second List.mem_cons_self) behind)
  | cons first firsts inductionHypothesis =>
      have isPart := parts first List.mem_cons_self
      rw [List.flatMap_cons, List.append_assoc] at same
      cases seconds with
      | nil => exact absurd same (ends isPart behind')
      | cons second seconds =>
          rw [List.flatMap_cons, List.append_assoc] at same
          obtain ⟨rfl, sameLater⟩ :=
            readable isPart (parts' second List.mem_cons_self) same
          obtain ⟨rfl, sameRest⟩ := inductionHypothesis
            (fun part member => parts part (List.mem_cons_of_mem first member))
            (fun part member => parts' part (List.mem_cons_of_mem first member))
            sameLater
          exact ⟨rfl, sameRest⟩

private theorem intercalate_append_singleton
    (separator : List Char) (texts : List (List Char)) (last : List Char) :
    separator.intercalate (texts ++ [last]) =
      texts.flatMap (· ++ separator) ++ last := by
  induction texts with
  | nil => simp
  | cons first rest inductionHypothesis =>
      obtain ⟨second, later, texts⟩ := List.exists_cons_of_ne_nil
        (List.append_ne_nil_of_right_ne_nil rest (List.cons_ne_nil last []))
      rw [texts] at inductionHypothesis
      rw [List.cons_append, texts, List.intercalate_cons_cons,
        inductionHypothesis, List.flatMap_cons, List.append_assoc,
        List.append_assoc, List.append_assoc]

/-! ## Integers -/

private theorem toList_toString_int (value : Int) :
    (toString value).toList =
      (if value < 0 then ['-'] else []) ++ Nat.toDigits 10 value.natAbs := by
  rw [Int.toString_eq_repr]
  cases value with
  | ofNat count => simp [Int.repr]
  | negSucc count => simp [Int.repr, Int.negSucc_lt_zero]

private theorem isDigit_or_eq_of_mem_toString
    {value : Int} {c : Char} (member : c ∈ (toString value).toList) :
    c.isDigit = true ∨ c = '-' := by
  rw [toList_toString_int, List.mem_append] at member
  rcases member with sign | digit
  · right
    split at sign
    · exact List.mem_singleton.mp sign
    · cases sign
  · exact Or.inl (Nat.isDigit_of_mem_toDigits (by decide) (by decide) digit)

private theorem getLast?_toString (value : Int) :
    ∃ digit, (toString value).toList.getLast? = some digit ∧
      digit.isDigit = true := by
  have nonempty : Nat.toDigits 10 value.natAbs ≠ [] := Nat.toDigits_ne_nil
  refine ⟨(Nat.toDigits 10 value.natAbs).getLast nonempty, ?_, ?_⟩
  · rw [toList_toString_int, List.getLast?_append,
      List.getLast?_eq_some_getLast nonempty]
    rfl
  · exact Nat.isDigit_of_mem_toDigits (by decide) (by decide)
      (List.getLast_mem nonempty)

private theorem sign_mem_toString_iff {value : Int} :
    '-' ∈ (toString value).toList ↔ value < 0 := by
  have unsigned : '-' ∉ Nat.toDigits 10 value.natAbs := by
    intro member
    have digit := Nat.isDigit_of_mem_toDigits (by decide) (by decide) member
    exact absurd digit (by decide)
  rw [toList_toString_int]
  by_cases negative : value < 0 <;> simp [negative, unsigned]

private theorem toList_toString_inj
    {value value' : Int}
    (same : (toString value).toList = (toString value').toList) :
    value = value' := by
  have sameSign : value < 0 ↔ value' < 0 := by
    rw [← sign_mem_toString_iff, same, sign_mem_toString_iff]
  rw [toList_toString_int, toList_toString_int] at same
  simp only [sameSign] at same
  have sameDigits := List.append_cancel_left same
  have sameCount := congrArg (Nat.ofDigitChars 10 · 0) sameDigits
  simp only [Nat.ofDigitChars_ten_toDigits] at sameCount
  omega

/-! ## Values -/

namespace AnnotationValue

/-- The types that a value is written with. -/
def types : AnnotationValue → List Ty
  | .classLiteral type => [type]
  | _ => []

def isString : AnnotationValue → Bool
  | .str _ => true
  | _ => false

/-- The characters with which the text of such a value ends. -/
def EndsWith : AnnotationValue → Char → Prop
  | .bool _, c => c = 'e'
  | .int _, c => c.isDigit = true
  | .str _, c => c = '"'
  | .classLiteral _, c => c = 's'

end AnnotationValue

namespace Env

/-- The qualified text of a value, by characters. -/
def valueText (env : Env) (value : AnnotationValue) : List Char :=
  (value.render env .qualified).toList

variable {env : Env}

private theorem valueText_bool (value : Bool) :
    env.valueText (.bool value) =
      if value then ['t', 'r', 'u', 'e'] else ['f', 'a', 'l', 's', 'e'] := by
  cases value <;> simp [valueText, AnnotationValue.render]

private theorem valueText_str (value : String) :
    env.valueText (.str value) = Text.literalChars value.toList := by
  simp [valueText, AnnotationValue.render, Text.stringLiteral]

private theorem valueText_classLiteral (type : Ty) :
    env.valueText (.classLiteral type) =
      env.text type ++ ['.', 'c', 'l', 'a', 's', 's'] := by
  simp [valueText, AnnotationValue.render, text]

private theorem exists_endsWith (value : AnnotationValue) :
    ∃ c, (env.valueText value).getLast? = some c ∧ value.EndsWith c := by
  cases value with
  | bool value => cases value <;> exact ⟨'e', by simp [valueText_bool], rfl⟩
  | int value => exact getLast?_toString value.toInt
  | str value =>
      refine ⟨'"', ?_, rfl⟩
      rw [valueText_str, Text.literalChars, List.getLast?_append]
      rfl
  | classLiteral type => exact ⟨'s', by simp [valueText_classLiteral], rfl⟩

/-- The texts of two values determine the values. -/
theorem DottedNames.valueText_inj
    (names : env.DottedNames) {first second : AnnotationValue}
    (writes : ∀ type ∈ first.types, env.Writes type)
    (writes' : ∀ type ∈ second.types, env.Writes type)
    (same : env.valueText first = env.valueText second) : first = second := by
  -- Values of different kinds differ in their last characters.
  obtain ⟨c, last, endsWith⟩ := env.exists_endsWith first
  obtain ⟨c', last', endsWith'⟩ := env.exists_endsWith second
  obtain rfl : c = c' := by
    rw [same, last'] at last
    exact (Option.some.inj last).symm
  cases first with
  | bool value =>
      subst endsWith
      cases second with
      | bool value' => cases value <;> cases value' <;> simp_all [valueText_bool]
      | _ => simp [AnnotationValue.EndsWith] at endsWith'
  | int value =>
      cases second with
      | int value' =>
          rw [Int64.toInt_inj.mp (toList_toString_inj same)]
      | _ =>
          subst endsWith'
          simp [AnnotationValue.EndsWith] at endsWith
  | str value =>
      subst endsWith
      cases second with
      | str value' =>
          rw [valueText_str, valueText_str] at same
          have sameChars := (Text.literalChars_append_inj
            (congrArg (· ++ []) same)).1
          rw [String.toList_injective sameChars]
      | _ => simp [AnnotationValue.EndsWith] at endsWith'
  | classLiteral type =>
      subst endsWith
      cases second with
      | classLiteral type' =>
          rw [valueText_classLiteral, valueText_classLiteral] at same
          have sameType := names.text_inj (writes type List.mem_cons_self)
            (writes' type' List.mem_cons_self) (List.append_cancel_right same)
          rw [sameType]
      | _ => simp [AnnotationValue.EndsWith] at endsWith'

/-- A value that is not a string has its separators inside angle brackets. -/
private theorem DottedNames.enclosed_valueText
    (names : env.DottedNames) {value : AnnotationValue}
    (writes : ∀ type ∈ value.types, env.Writes type)
    (noString : value.isString = false) :
    Enclosed false (env.valueText value) := by
  cases value with
  | bool value =>
      rw [valueText_bool]
      apply Enclosed.of_chars
      cases value <;> simp [isAngle, isSeparator]
  | int value =>
      apply Enclosed.of_chars
      intro c member
      rcases isDigit_or_eq_of_mem_toString member with digit | rfl
      · have differs (other : Char) (noDigit : other.isDigit = false) :
            c ≠ other := by
          rintro rfl
          simp [digit] at noDigit
        simp [isAngle, isSeparator, differs]
      · decide
  | str value => cases noString
  | classLiteral type =>
      rw [valueText_classLiteral]
      have isType := names.enclosed (writes type List.mem_cons_self)
      exact isType.append (Enclosed.of_chars (by simp [isAngle, isSeparator]))

private theorem exists_valueText_of_isString
    {value : AnnotationValue} (isString : value.isString = true) :
    ∃ text, value = .str text ∧
      env.valueText value = Text.literalChars text.toList := by
  cases value with
  | str text => exact ⟨text, rfl, valueText_str text⟩
  | _ => cases isString

/-- Only strings start with a quote. -/
private theorem DottedNames.exists_cons_valueText
    (names : env.DottedNames) {value : AnnotationValue}
    (writes : ∀ type ∈ value.types, env.Writes type)
    (noString : value.isString = false) :
    ∃ head tail, env.valueText value = head :: tail ∧ head ≠ '"' := by
  cases value with
  | bool value => cases value <;> exact ⟨_, _, valueText_bool _, by decide⟩
  | int value =>
      obtain ⟨digit, last, _⟩ := getLast?_toString value.toInt
      obtain ⟨head, tail, text⟩ := List.exists_cons_of_ne_nil
        (List.ne_nil_of_mem (List.mem_of_getLast? last))
      refine ⟨head, tail, text, ?_⟩
      rintro rfl
      have member : '"' ∈ (toString value.toInt).toList :=
        text ▸ List.mem_cons_self
      rcases isDigit_or_eq_of_mem_toString member with digit | sign
      · simp at digit
      · simp at sign
  | str value => cases noString
  | classLiteral type =>
      obtain ⟨head, tail, text, inName⟩ :=
        names.exists_cons_text (writes type List.mem_cons_self)
      rw [valueText_classLiteral, text, List.cons_append]
      exact ⟨head, _, rfl, ne_of_isNameChar inName _ (by decide)⟩

/-- A value with a separator or nothing behind it can be read. -/
theorem DottedNames.valueText_append_inj
    (names : env.DottedNames) {first second : AnnotationValue}
    {rest rest' : List Char}
    (writes : ∀ type ∈ first.types, env.Writes type)
    (writes' : ∀ type ∈ second.types, env.Writes type)
    (stops : StartsWithSeparator rest) (stops' : StartsWithSeparator rest')
    (same : env.valueText first ++ rest = env.valueText second ++ rest') :
    first = second ∧ rest = rest' := by
  have differs {string other : AnnotationValue} {behind behind' : List Char}
      (isString : string.isString = true) (noString : other.isString = false)
      (writesOther : ∀ type ∈ other.types, env.Writes type) :
      env.valueText string ++ behind ≠ env.valueText other ++ behind' := by
    obtain ⟨text, _, textEq⟩ := env.exists_valueText_of_isString isString
    obtain ⟨head, tail, otherEq, noQuote⟩ :=
      names.exists_cons_valueText writesOther noString
    rw [textEq, otherEq]
    intro sameText
    exact noQuote (List.cons.inj sameText).1.symm
  cases kind : first.isString <;> cases kind' : second.isString
  · obtain ⟨sameText, sameRest⟩ :=
      (names.enclosed_valueText writes kind).append_inj
        (names.enclosed_valueText writes' kind') stops stops' same
    exact ⟨names.valueText_inj writes writes' sameText, sameRest⟩
  · exact absurd same.symm (differs kind' kind writes)
  · exact absurd same (differs kind kind' writes')
  · obtain ⟨text, rfl, textEq⟩ := env.exists_valueText_of_isString kind
    obtain ⟨text', rfl, textEq'⟩ := env.exists_valueText_of_isString kind'
    rw [textEq, textEq'] at same
    obtain ⟨sameText, sameRest⟩ := Text.literalChars_append_inj same
    exact ⟨by rw [String.toList_injective sameText], sameRest⟩

end Env

/-! ## Members -/

/-- The value of a sole member called `value`. -/
def AnnotationUse.soleValue? :
    List (String × AnnotationValue) → Option AnnotationValue
  | [(name, value)] => if name = "value" then some value else none
  | _ => none

private theorem AnnotationUse.soleValue?_eq_some
    {members : List (String × AnnotationValue)} {value : AnnotationValue}
    (sole : soleValue? members = some value) : members = [("value", value)] := by
  unfold soleValue? at sole
  split at sole
  · split at sole
    · rename_i isValue
      rw [isValue, Option.some.inj sole]
    · cases sole
  · cases sole

namespace Env

open AnnotationUse

variable {env : Env}

/-- The member has an identifier for its name, and types that can be written. -/
structure WritesMember (env : Env) (member : String × AnnotationValue) : Prop
    where
  spelled : WellSpelled member.1
  types : ∀ type ∈ member.2.types, env.Writes type

/-- The qualified text of a member with its name. -/
def memberText (env : Env) (member : String × AnnotationValue) : List Char :=
  (AnnotationUse.renderMember env .qualified member).toList

private theorem memberText_eq (member : String × AnnotationValue) :
    env.memberText member =
      member.1.toList ++ ' ' :: '=' :: ' ' :: env.valueText member.2 := by
  simp [memberText, AnnotationUse.renderMember, valueText]

private theorem DottedNames.memberText_append_inj
    (names : env.DottedNames) {first second : String × AnnotationValue}
    {rest rest' : List Char}
    (writes : env.WritesMember first) (writes' : env.WritesMember second)
    (stops : StartsWithSeparator rest) (stops' : StartsWithSeparator rest')
    (same : env.memberText first ++ rest = env.memberText second ++ rest') :
    first = second ∧ rest = rest' := by
  rw [memberText_eq, memberText_eq, List.append_assoc, List.append_assoc]
    at same
  obtain ⟨sameName, sameLater⟩ :=
    writes.spelled.enclosed.append_inj writes'.spelled.enclosed
      (startsWithSeparator_cons rfl _) (startsWithSeparator_cons rfl _) same
  obtain ⟨sameValue, sameRest⟩ := names.valueText_append_inj writes.types
    writes'.types stops stops' (by simpa using sameLater)
  exact ⟨Prod.ext (String.toList_injective sameName) sameValue, sameRest⟩

/-- The text between the parentheses behind an annotation. -/
def innerText (env : Env) (members : List (String × AnnotationValue)) :
    List Char :=
  match soleValue? members with
  | some value => env.valueText value
  | none => [',', ' '].intercalate (members.map env.memberText)

/-- The text of all members, with the parentheses. -/
def membersText (env : Env) (members : List (String × AnnotationValue)) :
    List Char :=
  if members = [] then [] else '(' :: (env.innerText members ++ [')'])

private theorem toList_render (usage : AnnotationUse) :
    (usage.render env .qualified).toList =
      '@' :: (env.text usage.type ++ env.membersText usage.members) := by
  obtain ⟨type, members⟩ := usage
  match members with
  | [] => simp [AnnotationUse.render, membersText, text]
  | [(name, value)] =>
      by_cases isValue : name = "value"
      · simp [AnnotationUse.render, membersText, innerText, soleValue?, text,
          valueText, isValue]
      · simp [AnnotationUse.render, membersText, innerText, soleValue?, text,
          memberText, isValue]
  | first :: second :: later =>
      have texts (members : List (String × AnnotationValue)) :
          (members.map (AnnotationUse.renderMember env .qualified)).map
              String.toList =
            members.map env.memberText := by
        rw [List.map_map]
        rfl
      simp only [AnnotationUse.render, membersText, innerText, soleValue?,
        String.toList_append, String.toList_intercalate, texts]
      simp [text]

/-- What is written behind a value in parentheses is not written behind a name. -/
private theorem DottedNames.valueText_append_ne
    (names : env.DottedNames) {value : AnnotationValue} {name : String}
    (writes : ∀ type ∈ value.types, env.Writes type)
    (spelled : WellSpelled name) (rest rest' : List Char) :
    env.valueText value ++ ')' :: rest ≠ name.toList ++ ' ' :: rest' := by
  intro same
  cases kind : value.isString with
  | true =>
      obtain ⟨text, _, textEq⟩ := env.exists_valueText_of_isString kind
      obtain ⟨head, tail, nameEq⟩ :=
        List.exists_cons_of_ne_nil spelled.toList_ne_nil
      have inName : isNameChar head = true :=
        spelled.isNameChar head (nameEq ▸ List.mem_cons_self)
      rw [textEq, nameEq] at same
      exact ne_of_isNameChar inName '"' (by decide)
        (List.cons.inj same).1.symm
  | false =>
      obtain ⟨_, sameRest⟩ := (names.enclosed_valueText writes kind).append_inj
        spelled.enclosed (startsWithSeparator_cons rfl _)
        (startsWithSeparator_cons rfl _) same
      simp at sameRest

/-- Members with names start with a name. -/
private theorem exists_innerText
    {members : List (String × AnnotationValue)} (nonempty : members ≠ [])
    (noSole : soleValue? members = none) (rest : List Char) :
    ∃ member ∈ members, ∃ later,
      env.innerText members ++ rest = member.1.toList ++ ' ' :: later := by
  obtain ⟨member, members, rfl⟩ := List.exists_cons_of_ne_nil nonempty
  refine ⟨member, List.mem_cons_self, ?_⟩
  cases members with
  | nil => simp [innerText, noSole, memberText_eq]
  | cons second members =>
      simp [innerText, noSole, memberText_eq, List.intercalate_cons_cons]

/-- The text goes on with the last member, which has a parenthesis behind it. -/
def EndsMembers (env : Env) (text : List Char) : Prop :=
  ∃ member rest, env.WritesMember member ∧
    text = env.memberText member ++ ')' :: rest

private theorem DottedNames.namedMembers_append_inj
    (names : env.DottedNames)
    {firsts seconds : List (String × AnnotationValue)} {rest rest' : List Char}
    (nonempty : firsts ≠ []) (nonempty' : seconds ≠ [])
    (writes : ∀ member ∈ firsts, env.WritesMember member)
    (writes' : ∀ member ∈ seconds, env.WritesMember member)
    (same : [',', ' '].intercalate (firsts.map env.memberText) ++ ')' :: rest =
      [',', ' '].intercalate (seconds.map env.memberText) ++ ')' :: rest') :
    firsts = seconds ∧ rest = rest' := by
  have readable {first second : String × AnnotationValue}
      {later later' : List Char} (isMember : env.WritesMember first)
      (isMember' : env.WritesMember second)
      (sameText : env.memberText first ++ [',', ' '] ++ later =
        env.memberText second ++ [',', ' '] ++ later') :
      first = second ∧ later = later' := by
    rw [List.append_assoc, List.append_assoc] at sameText
    obtain ⟨sameMember, sameLater⟩ := names.memberText_append_inj isMember
      isMember' (startsWithSeparator_cons rfl _)
      (startsWithSeparator_cons rfl _) sameText
    exact ⟨sameMember, by simpa using sameLater⟩
  have ends {member : String × AnnotationValue} {later text : List Char}
      (isMember : env.WritesMember member) (last : env.EndsMembers text) :
      env.memberText member ++ [',', ' '] ++ later ≠ text := by
    obtain ⟨other, behind, isOther, rfl⟩ := last
    rw [List.append_assoc]
    intro sameText
    obtain ⟨_, sameLater⟩ := names.memberText_append_inj isMember isOther
      (startsWithSeparator_cons rfl _) (startsWithSeparator_cons rfl _) sameText
    simp at sameLater
  -- Every member but the last has a comma behind it, so the last one is split
  -- off and the others are parts in a row.
  obtain ⟨firsts, first, rfl⟩ :=
    (List.eq_nil_or_concat firsts).resolve_left nonempty
  obtain ⟨seconds, second, rfl⟩ :=
    (List.eq_nil_or_concat seconds).resolve_left nonempty'
  simp only [List.concat_eq_append, List.map_append, List.map_cons,
    List.map_nil, intercalate_append_singleton, List.flatMap_map,
    List.append_assoc _ _ (')' :: _)] at same writes writes' ⊢
  have isFirst := writes first (by simp)
  have isSecond := writes' second (by simp)
  obtain ⟨rfl, sameLast⟩ := flatMap_append_inj readable ends
    (fun member listed => writes member (by simp [listed]))
    (fun member listed => writes' member (by simp [listed]))
    ⟨first, rest, isFirst, rfl⟩ ⟨second, rest', isSecond, rfl⟩ same
  obtain ⟨rfl, sameRest⟩ := names.memberText_append_inj isFirst isSecond
    (startsWithSeparator_cons rfl _) (startsWithSeparator_cons rfl _) sameLast
  exact ⟨rfl, (List.cons.inj sameRest).2⟩

private theorem DottedNames.innerText_append_inj
    (names : env.DottedNames)
    {firsts seconds : List (String × AnnotationValue)} {rest rest' : List Char}
    (nonempty : firsts ≠ []) (nonempty' : seconds ≠ [])
    (writes : ∀ member ∈ firsts, env.WritesMember member)
    (writes' : ∀ member ∈ seconds, env.WritesMember member)
    (same : env.innerText firsts ++ ')' :: rest =
      env.innerText seconds ++ ')' :: rest') :
    firsts = seconds ∧ rest = rest' := by
  have differs {value : AnnotationValue}
      {members : List (String × AnnotationValue)} {behind behind' : List Char}
      (types : ∀ type ∈ value.types, env.Writes type) (present : members ≠ [])
      (noSole : soleValue? members = none)
      (written : ∀ member ∈ members, env.WritesMember member) :
      env.valueText value ++ ')' :: behind ≠
        env.innerText members ++ ')' :: behind' := by
    obtain ⟨member, listed, later, text⟩ :=
      env.exists_innerText present noSole (')' :: behind')
    rw [text]
    exact names.valueText_append_ne types (written member listed).spelled _ _
  cases sole : soleValue? firsts with
  | none =>
      cases sole' : soleValue? seconds with
      | none =>
          simp only [innerText, sole, sole'] at same
          exact names.namedMembers_append_inj nonempty nonempty' writes writes'
            same
      | some value' =>
          have short : env.innerText seconds = env.valueText value' := by
            rw [innerText, sole']
          obtain rfl := soleValue?_eq_some sole'
          have types' := (writes' _ List.mem_cons_self).types
          rw [short] at same
          exact absurd same.symm (differs types' nonempty sole writes)
  | some value =>
      have short : env.innerText firsts = env.valueText value := by
        rw [innerText, sole]
      obtain rfl := soleValue?_eq_some sole
      have types := (writes _ List.mem_cons_self).types
      rw [short] at same
      cases sole' : soleValue? seconds with
      | none => exact absurd same (differs types nonempty' sole' writes')
      | some value' =>
          simp only [innerText, sole'] at same
          obtain rfl := soleValue?_eq_some sole'
          have types' := (writes' _ List.mem_cons_self).types
          obtain ⟨rfl, sameRest⟩ := names.valueText_append_inj types types'
            (startsWithSeparator_cons rfl _) (startsWithSeparator_cons rfl _)
            same
          exact ⟨rfl, (List.cons.inj sameRest).2⟩

/-- The members of an annotation can be read when a space stands behind them. -/
private theorem DottedNames.membersText_append_inj
    (names : env.DottedNames)
    {firsts seconds : List (String × AnnotationValue)} {rest rest' : List Char}
    (writes : ∀ member ∈ firsts, env.WritesMember member)
    (writes' : ∀ member ∈ seconds, env.WritesMember member)
    (same : env.membersText firsts ++ ' ' :: rest =
      env.membersText seconds ++ ' ' :: rest') :
    firsts = seconds ∧ rest = rest' := by
  by_cases nothing : firsts = [] <;> by_cases nothing' : seconds = []
  · subst nothing nothing'
    exact ⟨rfl, (List.cons.inj same).2⟩
  · simp [membersText, nothing, nothing'] at same
  · simp [membersText, nothing, nothing'] at same
  · simp only [membersText, nothing, nothing', if_false, List.cons_append,
      List.append_assoc, List.nil_append, List.cons.injEq, true_and] at same
    obtain ⟨sameMembers, sameRest⟩ :=
      names.innerText_append_inj nothing nothing' writes writes' same
    exact ⟨sameMembers, (List.cons.inj sameRest).2⟩

/-! ## Annotations -/

/-- The type and the members of the annotation can be written. -/
structure WritesUse (env : Env) (usage : AnnotationUse) : Prop where
  type : env.Writes usage.type
  members : ∀ member ∈ usage.members, env.WritesMember member

/-- The text of an annotation and the space behind it. -/
def useText (env : Env) (usage : AnnotationUse) : List Char :=
  (usage.render env .qualified).toList ++ [' ']

private theorem startsWithSeparator_membersText
    (members : List (String × AnnotationValue)) (rest : List Char) :
    StartsWithSeparator (env.membersText members ++ ' ' :: rest) := by
  unfold membersText
  split
  · exact startsWithSeparator_cons rfl _
  · exact startsWithSeparator_cons rfl _

theorem DottedNames.useText_append_inj
    (names : env.DottedNames) {first second : AnnotationUse}
    {rest rest' : List Char} (writes : env.WritesUse first)
    (writes' : env.WritesUse second)
    (same : env.useText first ++ rest = env.useText second ++ rest') :
    first = second ∧ rest = rest' := by
  simp only [useText, toList_render, List.cons_append, List.append_assoc,
    List.nil_append, List.cons.injEq, true_and] at same
  obtain ⟨sameType, sameLater⟩ := names.text_append_inj writes.type writes'.type
    (startsWithSeparator_membersText _ _) (startsWithSeparator_membersText _ _)
    same
  obtain ⟨sameMembers, sameRest⟩ :=
    names.membersText_append_inj writes.members writes'.members sameLater
  obtain ⟨type, members⟩ := first
  obtain ⟨type', members'⟩ := second
  obtain rfl : type = type' := sameType
  obtain rfl : members = members' := sameMembers
  exact ⟨rfl, sameRest⟩

end Env

/-! ## Modifiers -/

/-- A keyword of a modifier and the space behind it. -/
def keywordText (word : String) : List Char :=
  word.toList ++ [' ']

/-- A reserved word that is not the keyword of a primitive type. -/
structure NamesNoType (word : String) : Prop where
  reserved : word ∈ reservedWords
  notPrimitive : Primitive.ofKeyword? word = none

private theorem namesNoType_of_mem_keywords
    {modifiers : Modifiers} {word : String}
    (member : word ∈ modifiers.keywords) : NamesNoType word := by
  have checked : ∀ entry ∈ Modifiers.customaryOrder,
      entry.2 ∈ reservedWords ∧ Primitive.ofKeyword? entry.2 = none := by
    decide
  obtain ⟨entry, listed, rfl⟩ := List.mem_map.mp member
  obtain ⟨reserved, notPrimitive⟩ := checked entry (List.mem_filter.mp listed).1
  exact ⟨reserved, notPrimitive⟩

theorem NamesNoType.enclosed {word : String} (keyword : NamesNoType word) :
    Enclosed false word.toList :=
  enclosed_of_isNameChar false (isNameChar_of_mem_reservedWords keyword.reserved)

namespace Env

variable {env : Env}

/-- The text goes on with a type and a name. -/
def EndsModifiers (env : Env) (text : List Char) : Prop :=
  ∃ type name, env.Writes type ∧ text = env.text type ++ ' ' :: name

/-- The modifiers, the type and the name can be read from a signature. -/
theorem DottedNames.keywords_append_inj
    (names : env.DottedNames) {first second : List String} {type type' : Ty}
    {name name' : List Char} (keywords : ∀ word ∈ first, NamesNoType word)
    (keywords' : ∀ word ∈ second, NamesNoType word)
    (writes : env.Writes type) (writes' : env.Writes type')
    (same : first.flatMap keywordText ++ (env.text type ++ ' ' :: name) =
      second.flatMap keywordText ++ (env.text type' ++ ' ' :: name')) :
    first = second ∧ type = type' ∧ name = name' := by
  have readable {word word' : String} {later later' : List Char}
      (keyword : NamesNoType word) (keyword' : NamesNoType word')
      (sameText : keywordText word ++ later = keywordText word' ++ later') :
      word = word' ∧ later = later' := by
    simp only [keywordText, List.append_assoc, List.singleton_append]
      at sameText
    obtain ⟨sameWord, sameLater⟩ := keyword.enclosed.append_inj
      keyword'.enclosed (startsWithSeparator_cons rfl _)
      (startsWithSeparator_cons rfl _) sameText
    exact ⟨String.toList_injective sameWord, (List.cons.inj sameLater).2⟩
  have ends {word : String} {later text : List Char}
      (keyword : NamesNoType word) (last : env.EndsModifiers text) :
      keywordText word ++ later ≠ text := by
    obtain ⟨other, behind, isType, rfl⟩ := last
    simp only [keywordText, List.append_assoc, List.singleton_append]
    intro sameText
    obtain ⟨sameWord, _⟩ := keyword.enclosed.append_inj (names.enclosed isType)
      (startsWithSeparator_cons rfl _) (startsWithSeparator_cons rfl _) sameText
    exact names.text_ne_of_reserved isType keyword.reserved
      keyword.notPrimitive sameWord.symm
  obtain ⟨sameKeywords, sameLast⟩ := flatMap_append_inj readable ends keywords
    keywords' ⟨type, name, writes, rfl⟩ ⟨type', name', writes', rfl⟩ same
  obtain ⟨sameType, sameName⟩ := names.text_append_inj writes writes'
    (startsWithSeparator_cons rfl _) (startsWithSeparator_cons rfl _) sameLast
  exact ⟨sameKeywords, sameType, (List.cons.inj sameName).2⟩

/-- Neither a keyword nor a type starts like an annotation. -/
private theorem DottedNames.head?_keywords_ne
    (names : env.DottedNames) {words : List String} {type : Ty}
    (keywords : ∀ word ∈ words, NamesNoType word) (writes : env.Writes type)
    (name : List Char) :
    (words.flatMap keywordText ++ (env.text type ++ ' ' :: name)).head? ≠
      some '@' := by
  cases words with
  | nil =>
      obtain ⟨head, tail, text, inName⟩ := names.exists_cons_text writes
      simpa [text] using ne_of_isNameChar inName '@' (by decide)
  | cons word words =>
      have reserved := (keywords word List.mem_cons_self).reserved
      have inName := isNameChar_of_mem_reservedWords reserved
      cases chars : word.toList with
      | nil => simp [keywordText, chars]
      | cons head tail =>
          have headInName := inName head (chars ▸ List.mem_cons_self)
          simpa [keywordText, chars] using
            ne_of_isNameChar headInName '@' (by decide)

end Env

/-! ## Signatures -/

/-- The types that an annotation is written with. -/
def AnnotationUse.types (usage : AnnotationUse) : List Ty :=
  usage.type :: usage.members.flatMap fun member => member.2.types

namespace Variable

/-- The types that a signature is written with. -/
def types (declared : Variable) : List Ty :=
  declared.type :: declared.annotationList.flatMap AnnotationUse.types

/-- The variable was declared, and then changed in some way. -/
def Reachable (declared : Variable) : Prop :=
  ∃ modifiers type name initializer start changes,
    declare modifiers type name initializer = .ok start ∧
      declared = start.history changes

theorem Reachable.valid
    {declared : Variable} (reachable : declared.Reachable) :
    declared.Valid := by
  obtain ⟨modifiers, type, name, initializer, start, changes, isStart, rfl⟩ :=
    reachable
  exact (valid_of_declare isStart).history changes

theorem Valid.writesUse
    {env : Env} {declared : Variable} (valid : declared.Valid)
    (writes : ∀ type ∈ declared.types, env.Writes type) :
    ∀ usage ∈ declared.annotationList, env.WritesUse usage := by
  intro usage listed
  have usageTypes : ∀ type ∈ usage.types, env.Writes type := fun type inUsage =>
    writes type (List.mem_cons_of_mem _
      (List.mem_flatMap.mpr ⟨usage, listed, inUsage⟩))
  refine ⟨usageTypes _ List.mem_cons_self, fun member inMembers => ⟨?_, ?_⟩⟩
  · exact (valid.annotations usage listed).spelled member.1
      (List.mem_map_of_mem inMembers)
  · intro type inMember
    exact usageTypes type (List.mem_cons_of_mem _
      (List.mem_flatMap.mpr ⟨member, inMembers, inMember⟩))

private theorem toList_renderSignature (env : Env) (declared : Variable) :
    (declared.renderSignature env .qualified).toList =
      declared.annotationList.flatMap env.useText ++
        (declared.modifiers.keywords.flatMap keywordText ++
          (env.text declared.type ++ ' ' :: declared.name.toList)) := by
  have parts :
      (declared.annotationList.map (AnnotationUse.render env .qualified) ++
          declared.modifiers.keywords ++
          [env.render .qualified declared.type, declared.name]).map
            String.toList =
        (declared.annotationList.map fun usage =>
            (usage.render env .qualified).toList) ++
          declared.modifiers.keywords.map String.toList ++
          [env.text declared.type] ++ [declared.name.toList] := by
    simp [Env.text]
  have space : " ".toList = [' '] := by simp
  rw [renderSignature, String.toList_intercalate, parts, space,
    intercalate_append_singleton]
  simp only [List.flatMap_append, List.flatMap_map, List.flatMap_singleton,
    List.append_assoc, List.singleton_append]
  rfl

/-- Two variables have the same signature if and only if they have the same name,
type, modifiers and annotations, with the same members in the same order.  The
names of all classes and type variables are distinct sequences of identifiers. -/
theorem renderSignature_eq_iff
    (model : Model) (first second : Variable)
    (dotted : ∀ name ∈ model.declaredNames, IsDotted name)
    (distinct : model.declaredNames.Nodup)
    (reachable : first.Reachable) (reachable' : second.Reachable)
    (writes : ∀ type ∈ first.types, model.env.Writes type)
    (writes' : ∀ type ∈ second.types, model.env.Writes type) :
    first.renderSignature model.env .qualified =
        second.renderSignature model.env .qualified ↔
      first.name = second.name ∧ first.type = second.type ∧
        first.modifiers.keywords = second.modifiers.keywords ∧
          first.annotationList = second.annotationList := by
  constructor
  · intro same
    have names := Model.dottedNames_env dotted distinct
    have isType := writes first.type List.mem_cons_self
    have isType' := writes' second.type List.mem_cons_self
    have keywords : ∀ word ∈ first.modifiers.keywords, NamesNoType word :=
      fun _ member => namesNoType_of_mem_keywords member
    have keywords' : ∀ word ∈ second.modifiers.keywords, NamesNoType word :=
      fun _ member => namesNoType_of_mem_keywords member
    have sameText := congrArg String.toList same
    rw [toList_renderSignature, toList_renderSignature] at sameText
    -- The annotations are read first: nothing behind them starts with `@`.
    have startsOtherwise {usage : AnnotationUse} {later text : List Char}
        (_ : model.env.WritesUse usage) (noUse : text.head? ≠ some '@') :
        model.env.useText usage ++ later ≠ text := by
      rintro rfl
      simp [Env.useText, Env.toList_render] at noUse
    obtain ⟨sameAnnotations, sameLater⟩ := flatMap_append_inj
      names.useText_append_inj startsOtherwise
      (reachable.valid.writesUse writes) (reachable'.valid.writesUse writes')
      (names.head?_keywords_ne keywords isType _)
      (names.head?_keywords_ne keywords' isType' _) sameText
    obtain ⟨sameKeywords, sameType, sameName⟩ :=
      names.keywords_append_inj keywords keywords' isType isType' sameLater
    exact ⟨String.toList_injective sameName, sameType, sameKeywords,
      sameAnnotations⟩
  · rintro ⟨sameName, sameType, sameKeywords, sameAnnotations⟩
    simp only [renderSignature, sameName, sameType, sameKeywords,
      sameAnnotations]

/-- A final variable of the type `Node<? extends N>[]`, annotated with `@Node`. -/
def annotatedArray (members : List (String × AnnotationValue)) : Variable where
  modifiers := .finalFlag
  type := .array (.parameterized (.ofNat 1)
    [.upperBounded (.typeVar (.ofNat 0))])
  name := "nodes"
  initializer := none
  annotations := some [⟨.cls (.ofNat 1), members⟩]

/-- A sole string that looks like two members is told from the two members. -/
theorem renderSignature_tells_quotes_apart :
    let first := annotatedArray [("value", .str "a\", b = \"c")]
    let second := annotatedArray [("value", .str "a"), ("b", .str "c")]
    (∀ name ∈ Model.selfBounded.declaredNames, IsDotted name) ∧
      Model.selfBounded.declaredNames.Nodup ∧
      first.Reachable ∧ second.Reachable ∧
      (∀ type ∈ first.types, Model.selfBounded.env.Writes type) ∧
      (∀ type ∈ second.types, Model.selfBounded.env.Writes type) ∧
      first.renderSignature Model.selfBounded.env .qualified ≠
        second.renderSignature Model.selfBounded.env .qualified := by
  intro first second
  have declaredNames : Model.selfBounded.declaredNames =
      [["java", "lang", "Object"], ["com", "example", "Node"], ["N"]].map
        (String.intercalate ".") := by
    decide +kernel
  have dotted : ∀ name ∈ Model.selfBounded.declaredNames, IsDotted name := by
    rw [declaredNames, List.forall_mem_map]
    have segments : ∀ segments ∈
        [["java", "lang", "Object"], ["com", "example", "Node"], ["N"]],
        segments ≠ [] ∧ ∀ segment ∈ segments, IsIdentifier segment := by
      decide
    exact fun parts listed =>
      ⟨parts, (segments parts listed).1, (segments parts listed).2, rfl⟩
  have distinct : Model.selfBounded.declaredNames.Nodup := by
    decide +kernel
  have reachable : first.Reachable :=
    ⟨.finalFlag, some first.type, "nodes", none, _,
      [.annotate (.cls (.ofNat 1)),
        .setMember 0 "value" (.str "a\", b = \"c")], rfl, by decide +kernel⟩
  have reachable' : second.Reachable :=
    ⟨.finalFlag, some first.type, "nodes", none, _,
      [.annotate (.cls (.ofNat 1)), .setMember 0 "value" (.str "a"),
        .setMember 0 "b" (.str "c")], rfl, by decide +kernel⟩
  have writes : ∀ type ∈ first.types, Model.selfBounded.env.Writes type := by
    intro type listed
    have known : ∀ type ∈ first.types, ∀ symbol ∈ type.symbols,
        (Model.selfBounded.env.name? symbol).isSome = true := by
      decide +kernel
    have placed : ∀ type ∈ first.types, type.isPlaced .outside = true := by
      decide
    exact ⟨known type listed, placed type listed⟩
  have differs : first.annotationList ≠ second.annotationList := by decide
  refine ⟨dotted, distinct, reachable, reachable', writes, writes, ?_⟩
  intro same
  exact differs ((renderSignature_eq_iff Model.selfBounded first second dotted
    distinct reachable reachable' writes writes).mp same).2.2.2

end Variable

end JavaTypes
