/-! # Wildcard patterns

A pattern is a list of tokens, and a slash is a character like any other to all of them but one. The
matcher tries the shortest reading of a wildcard first, and gives up as a whole as soon as a token
that needs a character finds the text used up: no longer reading of an earlier wildcard could leave
more text.

* `Glob.Token`, `Glob.compile` — the pattern language.
* `Glob.run`, `Glob.accepts` — the matcher.
-/

namespace ArchLint.Glob

/-- An entry of a bracketed set. -/
inductive Specifier where
  | single (c : Char)
  | range (first last : Char)
deriving DecidableEq, Repr

/-- The character belongs to the entry. -/
def Specifier.holds : Specifier → Char → Bool
  | .single s, c => s == c
  | .range first last, c => first ≤ c && c ≤ last

/-- A token of a pattern. -/
inductive Token where
  /-- The character itself. -/
  | literal (c : Char)
  /-- A question mark: one character. -/
  | anyChar
  /-- One star: any text. -/
  | anySequence
  /-- Two stars: nothing, or text up to a slash, or the rest of the text. -/
  | anyRecursive
  /-- A character of the set. -/
  | within (set : List Specifier)
  /-- A character outside the set. -/
  | except (set : List Specifier)
deriving DecidableEq, Repr

/-! ## Compiling a pattern -/

/-- The entries of a bracketed set; a hyphen with a character on either side makes a range. -/
def specifiers : List Char → List Specifier
  | a :: '-' :: b :: rest => .range a b :: specifiers rest
  | a :: rest => .single a :: specifiers rest
  | [] => []

/-- The text up to the next closing bracket, and the text after that bracket. -/
def untilBracket : List Char → Option (List Char × List Char)
  | [] => none
  | c :: cs => if c == ']' then some ([], cs) else (untilBracket cs).map fun (s, r) => (c :: s, r)

/-- Nothing of the text is lost. -/
theorem untilBracket_append {cs s r : List Char} (h : untilBracket cs = some (s, r)) :
    s ++ ']' :: r = cs := by
  induction cs generalizing s r with
  | nil => simp [untilBracket] at h
  | cons c cs ih =>
    simp only [untilBracket] at h
    split at h
    · simp_all
    · obtain ⟨⟨s', r'⟩, hs, heq⟩ := Option.map_eq_some_iff.1 h
      simp only [Prod.mk.injEq] at heq
      obtain ⟨rfl, rfl⟩ := heq
      simp [ih hs]

/-- A set after its opening bracket: the token and the rest of the pattern. The first character of
the set belongs to it even when it is a closing bracket. -/
def bracket : List Char → Option (Token × List Char)
  | '!' :: c :: cs => (untilBracket cs).map fun (s, r) => (.except (specifiers (c :: s)), r)
  | '!' :: [] => none
  | c :: cs => (untilBracket cs).map fun (s, r) => (.within (specifiers (c :: s)), r)
  | [] => none

/-- Two stars directly after two stars add nothing, unless those stand at the very start. -/
def pushRecursive (done : List Token) : List Token :=
  match done with
  | .anyRecursive :: _ :: _ => done
  | _ => .anyRecursive :: done

/-- Where a pair of stars may stand. -/
def atSegmentStart (before : Option Char) : Bool :=
  before == none || before == some '/'

/-- Compiles what follows the character `before`; `done` holds the tokens so far, last one first. A
run of more than two stars, a pair of stars that is not a whole segment, and an open bracket make the
pattern invalid. The first argument bounds the length of the text. -/
def compileAfter : Nat → Option Char → List Token → List Char → Option (List Token)
  | _, _, done, [] => some done.reverse
  | 0, _, _, _ :: _ => none
  | n + 1, before, done, c :: cs =>
    if c == '?' then compileAfter n (some c) (.anyChar :: done) cs
    else if c == '*' then
      match cs with
      | '*' :: '*' :: _ => none
      | '*' :: rest =>
        if atSegmentStart before then
          match rest with
          | [] => some (pushRecursive done).reverse
          | '/' :: rest => compileAfter n (some '/') (pushRecursive done) rest
          | _ :: _ => none
        else none
      | rest => compileAfter n (some '*') (.anySequence :: done) rest
    else if c == '[' then
      match bracket cs with
      | none => none
      | some (token, rest) => compileAfter n (some ']') (token :: done) rest
    else compileAfter n (some c) (.literal c :: done) cs

/-- The tokens of a pattern, if it is valid. -/
def compile (pattern : List Char) : Option (List Token) :=
  compileAfter pattern.length none [] pattern

/-! ## Matching -/

/-- What comes of matching the rest of a pattern against the rest of a text. -/
inductive Outcome where
  | matched
  /-- No match here; an earlier wildcard may take more. -/
  | mismatch
  /-- The text ran out before the pattern did, which ends the search. -/
  | exhausted
deriving DecidableEq, Repr

/-- A token that stands for one character takes `c`. -/
def Token.takes : Token → Char → Bool
  | .literal l, c => l == c
  | .anyChar, _ => true
  | .within set, c => set.any (·.holds c)
  | .except set, c => !set.any (·.holds c)
  | .anySequence, _ => false
  | .anyRecursive, _ => false

/-- Lets a wildcard take one more character at a time, and tries the rest of the pattern after each
one on which it may end; when the text is used up the rest of the pattern has the last word. -/
def resume (mayEndOn : Char → Bool) (next : List Char → Outcome) : List Char → Outcome
  | [] => next []
  | c :: cs =>
    if mayEndOn c then
      match next cs with
      | .mismatch => resume mayEndOn next cs
      | outcome => outcome
    else resume mayEndOn next cs

/-- A wildcard first takes nothing. -/
def wildcard (mayEndOn : Char → Bool) (next : List Char → Outcome) (text : List Char) : Outcome :=
  match next text with
  | .mismatch => resume mayEndOn next text
  | outcome => outcome

/-- Matches tokens against a text. -/
def run : List Token → List Char → Outcome
  | [], [] => .matched
  | [], _ :: _ => .mismatch
  | .anySequence :: ts, text => wildcard (fun _ => true) (run ts) text
  | .anyRecursive :: ts, text => wildcard (· == '/') (run ts) text
  | _ :: _, [] => .exhausted
  | t :: ts, c :: cs => if t.takes c then run ts cs else .mismatch

/-- The pattern is valid and matches the whole text. -/
def accepts (pattern text : List Char) : Bool :=
  match compile pattern with
  | some tokens => run tokens text == .matched
  | none => false

end ArchLint.Glob
