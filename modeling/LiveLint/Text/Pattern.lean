import LiveLint.Text.Basic

/-!
# Patterns

A pattern describes pieces of text. It is tried at a place of a text, and of several ways to match
the first one counts: an alternative goes before those that follow it, and a repetition goes on as
long as it can or, if it is reluctant, ends as soon as it can. What a named part of a pattern
matched is remembered.
-/

namespace LiveLint

/-- A description of pieces of text. -/
inductive Pattern where
  /-- One code point. -/
  | one (p : CodePoint → Bool)
  /-- One pattern after the other. -/
  | seq (p q : Pattern)
  /-- The first pattern, or else the second one. -/
  | alt (p q : Pattern)
  /-- A pattern at least `least` times, and `more` times more at most, if there is a limit. -/
  | many (reluctant : Bool) (least : Nat) (more : Option Nat) (p : Pattern)
  /-- A pattern whose match is remembered. -/
  | part (name : Text) (p : Pattern)
  /-- No text, but a place between two code points that fit; there is none before a text and none
  after it. -/
  | between (fits : Option CodePoint → Option CodePoint → Bool)

namespace Pattern

/-- A place in a text: the number of code points before it, the last of them, and what follows. -/
structure Place where
  position : Nat := 0
  before : Option CodePoint := none
  rest : Text

/-- A stretch of a text that a named part of a pattern matched. -/
structure Part where
  name : Text
  start : Nat
  stop : Nat
deriving DecidableEq

/-- Where a match ends, and the parts in it, the latest first. -/
abbrev Match := Place × List Part

/-- Tries to match from a place on; what follows decides whether a way to match is good. -/
abbrev Matcher := Match → (Match → Option Match) → Option Match

/-- Matches several times: `least` times for sure and `more` times if possible. -/
def repeated (m : Matcher) (reluctant : Bool) : Nat → Nat → Matcher
  | least + 1, more, s, k => m s fun s => repeated m reluctant least more s k
  | 0, 0, s, k => k s
  | 0, more + 1, s, k =>
    if reluctant then (k s).or (m s fun s => repeated m reluctant 0 more s k)
    else (m s fun s => repeated m reluctant 0 more s k).or (k s)

/-- How a pattern is matched. Where a repetition has no limit, what follows is long enough for every
turn that takes some of it. -/
def matcher : Pattern → Matcher
  | .one p => fun s k =>
    match s.1.rest with
    | [] => none
    | c :: rest => if p c then k (⟨s.1.position + 1, some c, rest⟩, s.2) else none
  | .seq p q => fun s k => p.matcher s fun s => q.matcher s k
  | .alt p q => fun s k => (p.matcher s k).or (q.matcher s k)
  | .many reluctant least more p => fun s k =>
    repeated p.matcher reluctant least (more.getD s.1.rest.length) s k
  | .part name p => fun s k =>
    p.matcher s fun e => k (e.1, ⟨name, s.1.position, e.1.position⟩ :: e.2)
  | .between fits => fun s k => if fits s.1.before s.1.rest.head? then k s else none

/-- The first way to match at a place: where it ends, and its parts in order. -/
def matchAt (p : Pattern) (place : Place) : Option (Nat × List Part) :=
  (p.matcher (place, []) some).map fun m => (m.1.position, m.2.reverse)

/-- The parts of all matches from a place on, the first `skip` code points left out. A match starts
behind the one before it. -/
def partsFrom (p : Pattern) (position : Nat) (before : Option CodePoint) (skip : Nat) :
    Text → List Part
  | [] => []
  | c :: rest =>
    if 0 < skip then p.partsFrom (position + 1) (some c) (skip - 1) rest
    else
      match p.matchAt ⟨position, before, c :: rest⟩ with
      | none => p.partsFrom (position + 1) (some c) 0 rest
      | some (stop, parts) =>
        parts ++ p.partsFrom (position + 1) (some c) (stop - position - 1) rest

/-- The parts of all matches in a text, in order. -/
def parts (p : Pattern) (t : Text) : List Part := p.partsFrom 0 none 0 t

/-! ## Building patterns -/

/-- Patterns one after the other. -/
def sequence : List Pattern → Pattern
  | [] => .between fun _ _ => true
  | [p] => p
  | p :: rest => .seq p (sequence rest)

/-- The first of some patterns that matches. -/
def anyOf : List Pattern → Pattern
  | [] => .between fun _ _ => false
  | [p] => p
  | p :: rest => .alt p (anyOf rest)

/-- Exactly this text. -/
def exactly (t : String) : Pattern :=
  sequence ((Text.ofString t).map fun c => .one (· = c))

/-- A pattern any number of times, as often as possible. -/
def star (p : Pattern) : Pattern := .many false 0 none p

/-- A pattern at least once, as often as possible. -/
def plus (p : Pattern) : Pattern := .many false 1 none p

/-- A pattern if possible. -/
def maybe (p : Pattern) : Pattern := .many false 0 (some 1) p

/-- A pattern exactly `n` times. -/
def times (n : Nat) (p : Pattern) : Pattern := .many false n (some 0) p

/-- A pattern once, and up to `n` times in all. -/
def upTo (n : Nat) (p : Pattern) : Pattern := .many false 1 (some (n - 1)) p

end Pattern

end LiveLint
