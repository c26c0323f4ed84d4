import LiveLint.Console.Literal
import LiveLint.Console.StyledText
import LiveLint.Text.Emoji

/-!
# Markup in titles

A title may hold tags. `[name]` opens a style, `[/name]` closes the latest open one of that name and
`[/]` the latest of all; tags vanish from the text, and a style that is not closed goes on to the
end. Two names are the same if they ask for the same style. A tag starts with a small letter or one
of `#`, `/`, `@` and holds no opening bracket. Backslashes in front of a tag count in pairs, each of
which is one backslash; one that is left over makes the tag plain text. Elsewhere a backslash in
front of an opening bracket vanishes. Between the tags, names of emoji are replaced.
-/

namespace LiveLint

namespace Markup

def openBracket : CodePoint := .ofChar '['
def closeBracket : CodePoint := .ofChar ']'
def backslash : CodePoint := .ofChar '\\'

/-! ## Reading tags -/

/-- A tag may start with this. -/
def startsTag (c : CodePoint) : Bool := c.isAsciiLower || c.is '#' || c.is '/' || c.is '@'

/-- A tag goes on with this. -/
def insideTag (c : CodePoint) : Bool := c ≠ openBracket ∧ c ≠ closeBracket

/-- The body of a tag whose opening bracket was read, and what follows its closing one. -/
def tagBody? : Text → Option (Text × Text)
  | [] => none
  | c :: rest =>
    if startsTag c then
      match rest.dropWhile insideTag with
      | [] => none
      | d :: after =>
        if d = closeBracket then some (c :: rest.takeWhile insideTag, after) else none
    else none

/-- A tag at the front of a text: the backslashes before it, its body, and what follows it. -/
def tagAt? (t : Text) : Option (Nat × Text × Text) :=
  match t.dropWhile (· = backslash) with
  | [] => none
  | c :: rest =>
    if c = openBracket then
      (tagBody? rest).map fun r => ((t.takeWhile (· = backslash)).length, r)
    else none

/-- What follows a tag is shorter than what the tag is at the front of. -/
theorem length_of_tagBody? {t body after : Text} (h : tagBody? t = some (body, after)) :
    after.length < t.length := by
  cases t with
  | nil => simp [tagBody?] at h
  | cons c rest =>
    simp only [tagBody?] at h
    split at h
    · have hd := (List.dropWhile_suffix insideTag (l := rest)).length_le
      split at h
      · simp at h
      · rename_i d tail heq
        split at h
        · simp only [Option.some.injEq, Prod.mk.injEq] at h
          obtain ⟨_, rfl⟩ := h
          rw [heq] at hd
          simp only [List.length_cons] at hd ⊢
          omega
        · simp at h
    · simp at h

/-- Reading a tag shortens the text, so that going through a text tag by tag ends. -/
theorem length_of_tagAt? {t body after : Text} {n : Nat} (h : tagAt? t = some (n, body, after)) :
    after.length < t.length := by
  have hd := (List.dropWhile_suffix (fun x => decide (x = backslash)) (l := t)).length_le
  simp only [tagAt?] at h
  split at h
  · simp at h
  · rename_i c rest heq
    split at h
    · simp only [Option.map_eq_some_iff, Prod.mk.injEq] at h
      obtain ⟨r, hr, _, hb⟩ := h
      have := length_of_tagBody? (hb ▸ hr : tagBody? rest = some (body, after))
      rw [heq] at hd
      simp only [List.length_cons] at hd
      omega
    · simp at h

/-- A tag as it is written: its position, the backslashes in front of it, and its body. -/
structure Tag where
  position : Nat
  backslashes : Nat
  body : Text

namespace Tag

/-- A backslash is left over, so that the tag is plain text. -/
def isEscaped (tag : Tag) : Bool := tag.backslashes % 2 = 1

/-- The backslashes that the pairs in front of the tag stand for. -/
def literal (tag : Tag) : Text := List.replicate (tag.backslashes / 2) backslash

/-- The position of the opening bracket, once the pairs of backslashes are read. -/
def start (tag : Tag) : Nat := tag.position + tag.backslashes / 2 * 2

/-- The tag in brackets. -/
def written (tag : Tag) : Text := openBracket :: tag.body ++ [closeBracket]

/-- What the tag is called: its body up to an equals sign. -/
def name (tag : Tag) : Text := tag.body.takeWhile (· ≠ CodePoint.ofChar '=')

/-- What follows the equals sign. -/
def argument? (tag : Tag) : Option Text :=
  match tag.body.dropWhile (· ≠ CodePoint.ofChar '=') with
  | [] => none
  | _ :: argument => some argument

end Tag

/-- A code point of plain text, or a tag. -/
inductive Token where
  | point (c : CodePoint)
  | tag (t : Tag)

/-- The tokens of a text that starts at a position. -/
def tokensFrom (position : Nat) (t : Text) : List Token :=
  match h : tagAt? t with
  | some (n, body, after) =>
    .tag ⟨position, n, body⟩ :: tokensFrom (position + n + body.length + 2) after
  | none =>
    match t with
    | [] => []
    | c :: rest => .point c :: tokensFrom (position + 1) rest
termination_by t.length
decreasing_by
  · exact length_of_tagAt? h
  · simp

/-! ## Plain text -/

/-- Drops a backslash in front of an opening bracket. -/
def unescape : Text → Text
  | [] => []
  | [c] => [c]
  | c :: d :: rest =>
    if c = backslash ∧ d = openBracket then openBracket :: unescape rest
    else c :: unescape (d :: rest)

/-- How a piece of plain text is shown. -/
def shown (t : Text) : Text := Emoji.expand (unescape t)

/-- A piece of plain text, or a tag. -/
inductive Piece where
  | plain (t : Text)
  | tag (t : Tag)

/-- The pieces that tokens make up; `held` is plain text so far, the latest first. -/
def pieces (held : Text) : List Token → List Piece
  | [] => [.plain held.reverse]
  | .point c :: rest => pieces (c :: held) rest
  | .tag tag :: rest =>
    .plain held.reverse :: .plain tag.literal
      :: (if tag.isEscaped then .plain tag.written else .tag tag) :: pieces [] rest

/-! ## Styles -/

/-- Why a title cannot be shown. -/
inductive Error where
  /-- A closing tag whose style is not open. -/
  | unopened (tag : Text) (position : Nat)
  | nothingToClose (position : Nat)
  /-- The argument of a tag, as far as it is read as a value, is no value. -/
  | badArgument (value argument : Text) (e : Literal.Error)
  /-- A style is written with something else than a number. -/
  | numeral (e : Numeral.Error)
deriving DecidableEq

/-- The wording of an error. -/
def Error.message : Error → Text
  | .unopened tag position =>
    Text.ofString "closing tag '" ++ tag ++ "' at position " ++ Text.ofNat position
      ++ " doesn't match any open tag"
  | .nothingToClose position =>
    Text.ofString "closing tag '[/]' at position " ++ Text.ofNat position ++ " has nothing to close"
  | .badArgument value argument e =>
    Text.ofString "error parsing " ++ value.quoted ++ " in " ++ argument.quoted ++ "; " ++ e.message
  | .numeral e => e.message

/-- The name by which tags are compared. -/
def nameOf (t : Text) : Except Error Text := (Style.nameOf t).mapError .numeral

/-- A tag that is open: its name, its argument, and where its style starts. -/
structure OpenTag where
  name : Text
  argument : Option Text
  start : Nat

namespace OpenTag

/-- The tag names an action and no style. -/
def isAction (t : OpenTag) : Bool := t.name.head?.any fun c => c.is '@'

/-- The definition of the style of a tag. -/
def definition (t : OpenTag) : Text :=
  match t.argument with
  | none => t.name
  | some argument => t.name ++ " " ++ argument

/-- The value in the argument of an action: what follows a name in parentheses, nothing in
parentheses after a name alone, or all of it. -/
def valueIn (argument : Text) : Text :=
  match argument.dropWhile fun c => c.isWord || c.is '.' with
  | [] => "()"
  | c :: rest =>
    if c.is '(' && rest.getLast?.any (fun d => d.is ')') && !rest.contains StyledText.newline then
      c :: rest
    else argument

/-- The definition of the style of a tag that is closed. An action shows no style, but its argument
has to make sense. -/
def closed (t : OpenTag) : Except Error Text :=
  if t.isAction then
    match t.argument with
    | none | some [] => .ok []
    | some argument =>
      match Literal.fault? (valueIn argument.strip) with
      | none => .ok []
      | some e => .error (.badArgument (valueIn argument.strip) argument e)
  else .ok t.definition

end OpenTag

/-- A title that is read in part: what is shown so far, the open tags and the spans that are closed,
the latest first. -/
structure Progress where
  text : Text := []
  opened : List OpenTag := []
  spans : List Span := []

namespace Progress

/-- Ends an open tag here. -/
def finish (s : Progress) (t : OpenTag) (others : List OpenTag) : Except Error Progress := do
  return { s with opened := others, spans := ⟨t.start, s.text.length, ← t.closed⟩ :: s.spans }

/-- Reads a tag. -/
def follow (s : Progress) (tag : Tag) : Except Error Progress := do
  match tag.name with
  | c :: rest =>
    if c = CodePoint.ofChar '/' then
      if Text.isBlank rest then
        match s.opened with
        | [] => throw (.nothingToClose tag.start)
        | t :: others => s.finish t others
      else
        let name ← nameOf (Text.strip rest)
        match s.opened.find? fun t => t.name == name with
        | none => throw (.unopened tag.written tag.start)
        | some t => s.finish t (s.opened.eraseP fun t => t.name == name)
    else
      return { s with opened := ⟨← nameOf (c :: rest), tag.argument?, s.text.length⟩ :: s.opened }
  | [] => return s

/-- Reads a piece. -/
def step (s : Progress) : Piece → Except Error Progress
  | .plain t => .ok { s with text := s.text ++ StyledText.clean (shown t) }
  | .tag tag => s.follow tag

/-- What is shown, once all is read. Of spans that start together the one that ends last comes
first, so that inner tags have their way. -/
def result (s : Progress) : StyledText :=
  let unclosed := s.opened.reverse.map fun t => (⟨t.start, s.text.length, t.definition⟩ : Span)
  ⟨s.text, (unclosed ++ s.spans).mergeSort fun a b => a.start ≤ b.start⟩

end Progress

/-- What markup shows. -/
def read (t : Text) : Except Error StyledText := do
  return ((← (pieces [] (tokensFrom 0 t)).foldlM Progress.step {}).result)

end Markup

end LiveLint
