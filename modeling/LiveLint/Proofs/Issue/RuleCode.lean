import Mathlib.Data.List.DropRight
import LiveLint.Proofs.Issue.AllOrNothing

/-!
# Rule codes follow a grammar

A code is taken from a message exactly when the message begins with one (`RuleCode.Opens`): letters,
digits and an extension, each of them a longest run, then a colon and white space. Letters, digits,
the point and the colon are told apart by their characters alone, so a message begins with one code
at most, and the reader never has to go back (`RuleCode.ofMessage?_eq_some_iff`).
-/

namespace LiveLint

namespace CodePoint

/-- The first digit is `0`, and between `9` and the digits of other scripts there are none. -/
theorem bounds_of_isDecimal {c : CodePoint} (h : c.isDecimal) :
    0x30 ≤ c.val ∧ c.val < 0x3A ∨ 0x660 ≤ c.val := by
  have hzeros : ∀ z ∈ digitZeros, z = 0x30 ∨ 0x660 ≤ z := by decide
  unfold isDecimal digit? at h
  rw [Option.isSome_map, List.find?_isSome] at h
  obtain ⟨z, hz, hin⟩ := h
  rw [Bool.and_eq_true, decide_eq_true_eq, decide_eq_true_eq] at hin
  rcases hzeros z hz with rfl | hfar <;> omega

/-- Digits are no capital letters. -/
theorem isAsciiUpper_eq_false_of_isDecimal {c : CodePoint} (h : c.isDecimal) :
    c.isAsciiUpper = false := by
  have hbounds := bounds_of_isDecimal h
  rw [Bool.eq_false_iff, isAsciiUpper, ne_eq, Bool.and_eq_true, decide_eq_true_eq,
    decide_eq_true_eq]
  omega

end CodePoint

namespace RuleCode

/-! ## The grammar -/

/-- The point between the digits of a code. -/
def point : CodePoint := .ofChar '.'

/-- The colon that ends a code. -/
def colon : CodePoint := .ofChar ':'

/-- Nothing, or a point with at least one digit. -/
inductive Extension : Text → Prop
  | none : Extension []
  | digits {ds : Text} (hne : ds ≠ []) (hds : ∀ c ∈ ds, c.isDecimal) : Extension (point :: ds)

/-- What a code is made of. -/
structure Parts (letters digits extension : Text) : Prop where
  twoOrThree : 2 ≤ letters.length ∧ letters.length ≤ 3
  capitals : ∀ c ∈ letters, c.isAsciiUpper
  atMostThree : digits.length ≤ 3
  decimals : ∀ c ∈ digits, c.isDecimal
  extended : Extension extension

/-- Two or three capital letters, at most three digits, and perhaps a point with further digits. -/
def IsCode (code : Text) : Prop :=
  ∃ letters digits extension, Parts letters digits extension ∧ code = letters ++ digits ++ extension

/-- The message begins with the code, which a colon and white space end. -/
def Opens (code message : Text) : Prop :=
  IsCode code ∧ ∃ w rest, w.isBlank ∧ message = code ++ colon :: w :: rest

/-! ## What follows the digits -/

/-- A code ends at a colon that white space follows. -/
theorem endsCode_iff {t : Text} :
    endsCode t = true ↔ ∃ w rest, w.isBlank ∧ t = colon :: w :: rest := by
  match t with
  | [] | [_] => exact ⟨nofun, nofun⟩
  | c :: w :: rest =>
    rw [endsCode, Bool.and_eq_true, decide_eq_true_eq]
    constructor
    · rintro ⟨rfl, hw⟩
      exact ⟨w, rest, hw, rfl⟩
    · rintro ⟨w, rest, hw, ⟨⟩⟩
      exact ⟨rfl, hw⟩

/-- What is taken as an extension and what is left make up the text. -/
theorem takeExtension_append (t : Text) : (takeExtension t).1 ++ (takeExtension t).2 = t := by
  unfold takeExtension
  split
  case h_1 c rest =>
    split
    · split
      · rfl
      · rw [List.cons_append, List.takeWhile_append_dropWhile]
    · rfl
  case h_2 => rfl

/-- What is taken as an extension is one. -/
theorem extension_takeExtension (t : Text) : Extension (takeExtension t).1 := by
  unfold takeExtension
  split
  case h_1 c rest =>
    split
    case isTrue hc =>
      subst hc
      split
      · exact .none
      · rename_i hne
        exact .digits hne fun d hd => List.mem_takeWhile_imp hd
    case isFalse => exact .none
  case h_2 => exact .none

/-- An extension in front of a colon is read whole. -/
theorem takeExtension_append_colon {extension : Text} (h : Extension extension) (t : Text) :
    takeExtension (extension ++ colon :: t) = (extension, colon :: t) := by
  cases h with
  | none => rfl
  | @digits ds hne hds =>
    have hcolon : ∀ c ∈ (colon :: t).head?, c.isDecimal = false := by
      rintro _ ⟨⟩
      decide
    have htaken := Text.takeWhile_run hds hcolon
    have hleft := Text.dropWhile_run hds hcolon
    have hpoint : point = CodePoint.ofChar '.' := rfl
    rw [List.cons_append, takeExtension, if_pos hpoint, htaken, hleft]
    cases ds with
    | nil => exact absurd rfl hne
    | cons d ds => rfl

/-- What follows the digits starts with a point or with the colon. -/
theorem head_extension {extension : Text} (h : Extension extension) (t : Text) :
    ∀ c ∈ (extension ++ colon :: t).head?, c = point ∨ c = colon := by
  cases h with
  | none =>
    rintro _ ⟨⟩
    exact .inr rfl
  | digits hne hds =>
    rintro _ ⟨⟩
    exact .inl rfl

/-! ## The reader and the grammar -/

/-- A code is read back from any message that it opens. -/
theorem ofMessage?_of_opens {code message : Text} (h : Opens code message) :
    ofMessage? message = some code := by
  obtain ⟨⟨letters, digits, extension, hparts, rfl⟩, w, rest, hw, rfl⟩ := h
  -- Each run ends where the next part begins, whichever of them are empty.
  have hextension := head_extension hparts.extended (w :: rest)
  have hafterDigits : ∀ c ∈ (extension ++ colon :: w :: rest).head?, c.isDecimal = false := by
    intro c hc
    rcases hextension c hc with rfl | rfl <;> decide
  have hafterLetters :
      ∀ c ∈ (digits ++ (extension ++ colon :: w :: rest)).head?, c.isAsciiUpper = false := by
    intro c hc
    cases hdigits : digits with
    | nil =>
      rw [hdigits] at hc
      rcases hextension c hc with rfl | rfl <;> decide
    | cons d ds =>
      rw [hdigits] at hc
      cases hc
      exact CodePoint.isAsciiUpper_eq_false_of_isDecimal
        (hparts.decimals _ (hdigits ▸ List.mem_cons_self))
  have hends : endsCode (colon :: w :: rest) = true := endsCode_iff.2 ⟨w, rest, hw, rfl⟩
  rw [List.append_assoc, List.append_assoc]
  unfold ofMessage?
  dsimp only
  rw [Text.takeWhile_run hparts.capitals hafterLetters,
    Text.dropWhile_run hparts.capitals hafterLetters,
    Text.takeWhile_run hparts.decimals hafterDigits,
    Text.dropWhile_run hparts.decimals hafterDigits,
    takeExtension_append_colon hparts.extended]
  dsimp only
  rw [if_pos, List.append_assoc]
  simp only [hparts.twoOrThree, hparts.atMostThree, hends, decide_true, Bool.and_self]

/-- What is read as a code is one, and opens the message. -/
theorem opens_of_ofMessage? {code message : Text} (h : ofMessage? message = some code) :
    Opens code message := by
  unfold ofMessage? at h
  dsimp only at h
  split at h
  case isFalse => cases h
  case isTrue hread =>
    cases h
    simp only [Bool.and_eq_true, decide_eq_true_eq] at hread
    obtain ⟨⟨htwoOrThree, hatMostThree⟩, hends⟩ := hread
    obtain ⟨w, rest, hw, htail⟩ := endsCode_iff.1 hends
    refine ⟨⟨_, _, _, ?_, rfl⟩, w, rest, hw, ?_⟩
    · exact {
        twoOrThree := htwoOrThree
        capitals := fun c hc => List.mem_takeWhile_imp hc
        atMostThree := hatMostThree
        decimals := fun c hc => List.mem_takeWhile_imp hc
        extended := extension_takeExtension _ }
    · rw [← htail, List.append_assoc, takeExtension_append, List.append_assoc,
        List.takeWhile_append_dropWhile, List.takeWhile_append_dropWhile]

/-- The code of a message is the code that opens it. -/
theorem ofMessage?_eq_some_iff {code message : Text} :
    ofMessage? message = some code ↔ Opens code message :=
  ⟨opens_of_ofMessage?, ofMessage?_of_opens⟩

/-- A code that opens a message is a prefix of it. -/
theorem prefix_of_opens {code message : Text} (h : Opens code message) : code <+: message := by
  obtain ⟨-, w, rest, -, rfl⟩ := h
  exact List.prefix_append code (colon :: w :: rest)

/-- A message begins with one code at most. -/
theorem Opens.unique {code code' message : Text} (h : Opens code message)
    (h' : Opens code' message) : code = code' :=
  Option.some.inj ((ofMessage?_of_opens h).symm.trans (ofMessage?_of_opens h'))

/-- A message has no code exactly if none opens it. -/
theorem ofMessage?_eq_none_iff {message : Text} :
    ofMessage? message = none ↔ ¬ ∃ code, Opens code message := by
  rw [Option.eq_none_iff_forall_ne_some, not_exists]
  exact forall_congr' fun code => not_congr ofMessage?_eq_some_iff

end RuleCode

namespace LinterOutput

/-- The issue has the message of the item as it is, and for its code the text that opens the
message, if there is one. -/
structure Coded (item : Value) (issue : Issue) : Prop where
  message : item.field? messageField = some (.text issue.message)
  code : ∀ code, issue.code = some code ↔ RuleCode.Opens code issue.message
  noCode : issue.code = none ↔ ¬ ∃ code, RuleCode.Opens code issue.message

/-- Issues are coded by their messages. -/
theorem Reports.coded {severity : Severity} {item : Value} {issue : Issue}
    (h : Reports severity item issue) : Coded item issue := by
  refine ⟨h.message, ?_, ?_⟩
  · rw [h.code]
    exact fun code => RuleCode.ofMessage?_eq_some_iff
  · rw [h.code]
    exact RuleCode.ofMessage?_eq_none_iff

/-- The code of every issue is the one text that opens its message by the grammar of codes. -/
theorem codes_follow_grammar {parser : OutputParser} {o : LinterOutput} {found : List Issue}
    (h : o.issues parser = .ok found) :
    (∃ items, o.Lists items ∧ List.Forall₂ Coded items found) ∧
      ∀ message code code',
        RuleCode.Opens code message → RuleCode.Opens code' message → code = code' := by
  obtain ⟨items, hitems, hreports⟩ := lists_of_issues h
  have hcoded : List.Forall₂ Coded items found := hreports.imp fun item issue => Reports.coded
  exact ⟨⟨items, hitems, hcoded⟩, fun message code code' => RuleCode.Opens.unique⟩

/-- Two issues: a code with digits of other scripts and an extension, and a point without digits. -/
def codedOutput : LinterOutput where
  stdout := "[\x7b\"line\": 1, \"start_column\": 1, \"end_column\": 1, \"message\": \"RFA٠1९.٤٤:\u00a0x\"\x7d, \x7b\"line\": 1, \"start_column\": 1, \"end_column\": 1, \"message\": \"LT01.: x\"\x7d]"
  exitCode := some 1
  stderr := []

/-- Digits of other scripts belong to a code, and a point without digits ends none. -/
theorem codes_of_awkward_messages :
    ∃ found, codedOutput.issues {} = .ok found ∧
      found.map Issue.code = [some (Text.ofString "RFA٠1९.٤٤"), none] ∧
      (∃ items, codedOutput.Lists items ∧ List.Forall₂ Coded items found) ∧
        ∀ message code code',
          RuleCode.Opens code message → RuleCode.Opens code' message → code = code' := by
  have hcodes : (codedOutput.issues {}).toOption.map (List.map Issue.code)
      = some [some (Text.ofString "RFA٠1९.٤٤"), none] := by
    decide +kernel
  cases hissues : codedOutput.issues {} with
  | ok found =>
    rw [hissues] at hcodes
    exact ⟨found, rfl, Option.some.inj hcodes, codes_follow_grammar hissues⟩
  | error failure =>
    rw [hissues] at hcodes
    cases hcodes

end LinterOutput

end LiveLint
