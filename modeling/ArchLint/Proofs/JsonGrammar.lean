import ArchLint.Json.Printer
import ArchLint.Json.Reader
import Mathlib.Algebra.Group.Nat.Defs
import Mathlib.Data.List.DropRight

/-! # The spellings of a JSON document

A document has many texts, which differ in white space between the tokens. The reader takes each of
them back to the document.

* `Json.Spells` — a text of a document, as long as its numbers are natural ones of at most 64 bits.
* `Json.read_of_spells` — reading any such text gives the document.
* `Json.readNumber_digits`, `Json.readString_flatMap_escapeChar` — the same for numbers and strings.
-/

namespace ArchLint

namespace Text

/-! ## Digits -/

theorem isDigit_digitChar {d : Nat} (h : d < 10) : (digitChar d).isDigit = true := by
  have all : ∀ d < 10, (digitChar d).isDigit = true := by decide
  exact all d h

theorem isDigit_of_mem_digits {n : Nat} {c : Char} (h : c ∈ digits n) : c.isDigit = true := by
  induction n using digits.induct with
  | case1 n small =>
      rw [digits, if_pos small, List.mem_singleton] at h
      subst h
      exact isDigit_digitChar small
  | case2 n large ih =>
      rw [digits, if_neg large, List.mem_append, List.mem_singleton] at h
      obtain h | rfl := h
      · exact ih h
      · exact isDigit_digitChar (Nat.mod_lt n (by decide))

theorem digits_eq_cons (n : Nat) : ∃ c cs, digits n = c :: cs ∧ c.isDigit = true := by
  cases front : digits n with
  | nil => exact absurd front (digits_ne_nil n)
  | cons c cs =>
      refine ⟨c, cs, rfl, isDigit_of_mem_digits (n := n) ?_⟩
      rw [front]
      exact .head cs

theorem head?_digits_ne_zero {n : Nat} (h : 0 < n) : (digits n).head? ≠ some '0' := by
  induction n using digits.induct with
  | case1 n small =>
      have all : ∀ d < 10, 0 < d → [digitChar d].head? ≠ some '0' := by decide
      rw [digits, if_pos small]
      exact all n small h
  | case2 n large ih =>
      -- The first digit of a longer number is the first digit of what stands before the last one.
      rw [digits, if_neg large]
      obtain ⟨c, cs, front, _⟩ := digits_eq_cons (n / 10)
      simpa [front] using ih (by omega)

theorem length_digits_le {n k : Nat} (h : n < 10 ^ (k + 1)) : (digits n).length ≤ k + 1 := by
  induction n using digits.induct generalizing k with
  | case1 n small =>
      rw [digits, if_pos small, List.length_singleton]
      omega
  | case2 n large ih =>
      rw [digits, if_neg large, List.length_append, List.length_singleton]
      cases k with
      | zero => omega
      | succ k =>
          have : n / 10 < 10 ^ (k + 1) := by
            rw [Nat.div_lt_iff_lt_mul (by decide)]
            exact h
          exact Nat.succ_le_succ (ih this)

end Text

namespace Json

/-! ## Numbers -/

/-- What may follow a number: nothing that would lengthen it. -/
def EndsNumber (rest : List Char) : Prop :=
  ∀ c ∈ rest.head?, c.isDigit = false ∧ c ≠ '.' ∧ c ≠ 'e' ∧ c ≠ 'E'

theorem spanDigits_append_of_ends {ds rest : List Char} (hds : ∀ c ∈ ds, c.isDigit = true)
    (hrest : EndsNumber rest) : spanDigits (ds ++ rest) = (ds, rest) := by
  have stop : rest.takeWhile Char.isDigit = [] ∧ rest.dropWhile Char.isDigit = rest := by
    cases rest with
    | nil => exact ⟨rfl, rfl⟩
    | cons c cs =>
        have := (hrest c rfl).1
        simp [this]
  unfold spanDigits
  rw [List.takeWhile_append_of_pos hds, List.dropWhile_append_of_pos hds, stop.1, stop.2,
    List.append_nil]

theorem readWhole_digits (n : Nat) {rest : List Char} (h : EndsNumber rest) :
    readWhole (Text.digits n ++ rest) = some (Text.digits n, rest) := by
  -- A leading zero is taken alone, which is right because only zero has one.
  by_cases zero : n = 0
  · subst zero
    rw [Text.digits, if_pos (by decide)]
    rfl
  · have taken : someDigits (Text.digits n ++ rest) = some (Text.digits n, rest) := by
      have : (Text.digits n).isEmpty = false := by
        simpa using Text.digits_ne_nil n
      simp [someDigits,
        spanDigits_append_of_ends (fun _ => Text.isDigit_of_mem_digits) h, this]
    obtain ⟨c, cs, front, _⟩ := Text.digits_eq_cons n
    have head : c ≠ '0' := by
      have := Text.head?_digits_ne_zero (Nat.pos_of_ne_zero zero)
      simpa [front] using this
    rw [front, List.cons_append] at taken ⊢
    unfold readWhole
    split
    next cs' same => exact absurd (List.cons.inj same).1 head
    next => exact taken

theorem overflows_word {n : Nat} (h : n < UInt64.size) : overflows n 0 = false := by
  -- Twenty digits are far below the sizes at which a number can round to infinity.
  have short : (Text.digits n).length ≤ 19 + 1 :=
    Text.length_digits_le (Nat.lt_trans h (by decide))
  simp [overflows]
  omega

theorem readNumber_digits {n : Nat} (h : n < UInt64.size) {rest : List Char}
    (hrest : EndsNumber rest) : readNumber (Text.digits n ++ rest) = some (.nat n, rest) := by
  have sign : readSign (Text.digits n ++ rest) = ([], Text.digits n ++ rest) := by
    obtain ⟨c, cs, front, digit⟩ := Text.digits_eq_cons n
    rw [front, List.cons_append]
    unfold readSign
    split
    next same =>
      rw [(List.cons.inj same).1] at digit
      exact absurd digit (by decide)
    next => rfl
  have fraction : readFraction rest = some ([], rest) := by
    unfold readFraction
    split
    next => exact absurd rfl (hrest _ rfl).2.1
    next => rfl
  have exponent : readExponent rest = some ([], 0, rest) := by
    unfold readExponent
    cases rest with
    | nil => rfl
    | cons c cs =>
        have := hrest c rfl
        simp [this]
  have value : numberOf [] (Text.digits n) [] [] 0 = .nat n := by
    simp [numberOf, Text.ofDigits_digits, overflows_word h]
  simp [readNumber, sign, readWhole_digits n hrest, fraction, exponent, value]

/-! ## Strings -/

theorem escapeChar_cases (c : Char) :
    (∃ e, e ≠ 'u' ∧ shortEscape? e = some c ∧ escapeChar c = ['\\', e]) ∨
    (c.toNat < 0x20 ∧ escapeChar c =
      ['\\', 'u', '0', '0', Text.hexDigit (c.toNat / 16), Text.hexDigit (c.toNat % 16)]) ∨
    (c ≠ '"' ∧ c ≠ '\\' ∧ ¬ c.toNat < 0x20 ∧ escapeChar c = [c]) := by
  unfold escapeChar
  -- Seven characters have a letter of their own; then come the other control characters.
  iterate 7
    split
    next is => exact .inl ⟨_, by decide, by rw [eq_of_beq is]; rfl, rfl⟩
  split
  next control => exact .inr (.inl ⟨control, rfl⟩)
  next quote backslash _ _ _ _ _ plain =>
    exact .inr (.inr ⟨by simpa using quote, by simpa using backslash, plain, rfl⟩)

theorem readString_short {e c : Char} (h : shortEscape? e = some c) (hu : e ≠ 'u')
    (cs : List Char) : readString ('\\' :: e :: cs) = (readString cs).push c := by
  rw [readString.eq_def]
  split <;> grind

theorem readString_unicode {a b c d : Char} {n : Nat} (h : Text.ofHex? [a, b, c, d] = some n)
    (plain : n < 0xD800) (cs : List Char) :
    readString ('\\' :: 'u' :: a :: b :: c :: d :: cs) = (readString cs).push (Char.ofNat n) := by
  -- Whether or not another escape follows, a number below the surrogates stands for itself.
  have high : isHighSurrogate n = false := by
    simp [isHighSurrogate]
    omega
  have low : isLowSurrogate n = false := by
    simp [isLowSurrogate]
    omega
  rw [readString.eq_def]
  split <;> grind

theorem ofHex?_control {n : Nat} (h : n < 0x20) :
    Text.ofHex? ['0', '0', Text.hexDigit (n / 16), Text.hexDigit (n % 16)] = some n := by
  have all : ∀ n < 0x20,
      Text.ofHex? ['0', '0', Text.hexDigit (n / 16), Text.hexDigit (n % 16)] = some n := by decide
  exact all n h

theorem readString_escapeChar (c : Char) (cs : List Char) :
    readString (escapeChar c ++ cs) = (readString cs).push c := by
  obtain ⟨e, hu, he, shape⟩ | ⟨control, shape⟩ | ⟨quote, backslash, plain, shape⟩ :=
    escapeChar_cases c
  · rw [shape]
    exact readString_short he hu cs
  · rw [shape]
    have value : Char.ofNat c.toNat = c := Char.ofNat_toNat c
    have read := readString_unicode (ofHex?_control control) (by omega) cs
    rwa [value] at read
  · rw [shape, List.singleton_append, readString.eq_def]
    split <;> grind

theorem readString_flatMap_escapeChar (text rest : List Char) :
    readString (text.flatMap escapeChar ++ '"' :: rest) = some (some text, rest) := by
  induction text with
  | nil => rw [List.flatMap_nil, List.nil_append, readString]
  | cons c cs ih =>
      rw [List.flatMap_cons, List.append_assoc, readString_escapeChar, ih]
      rfl

/-! ## Documents -/

def Blank (w : List Char) : Prop :=
  ∀ c ∈ w, isSpace c = true

mutual

/-- `Spells cs j`: the characters `cs` are a spelling of the document `j`. -/
inductive Spells : List Char → Json → Prop where
  | null : Spells ['n', 'u', 'l', 'l'] .null
  | yes : Spells ['t', 'r', 'u', 'e'] (.bool true)
  | no : Spells ['f', 'a', 'l', 's', 'e'] (.bool false)
  | nat {n : Nat} (h : n < UInt64.size) : Spells (Text.digits n) (.nat n)
  | str (text : String) : Spells (quote text).toList (.str text)
  | emptyArr : Spells ['[', ']'] (.arr [])
  | emptyObj : Spells ['{', '}'] (.obj [])
  | arr {cs : List Char} {items : List Json} (h : ItemsSpell cs items) :
      Spells ('[' :: cs) (.arr items)
  | obj {cs : List Char} {members : List (String × Json)} (h : MembersSpell cs members) :
      Spells ('{' :: cs) (.obj members)

/-- The items of an array up to its closing bracket. -/
inductive ItemsSpell : List Char → List Json → Prop where
  | last {w cs w' : List Char} {j : Json} (before : Blank w) (h : Spells cs j) (after : Blank w') :
      ItemsSpell (w ++ (cs ++ (w' ++ [']']))) [j]
  | more {w cs ds : List Char} {j : Json} {js : List Json} (before : Blank w) (h : Spells cs j)
      (hs : ItemsSpell ds js) : ItemsSpell (w ++ (cs ++ ',' :: ds)) (j :: js)

/-- The members of an object up to its closing brace. -/
inductive MembersSpell : List Char → List (String × Json) → Prop where
  | last {w v cs w' : List Char} (key : String) {j : Json} (before : Blank w) (between : Blank v)
      (h : Spells cs j) (after : Blank w') :
      MembersSpell (w ++ ((quote key).toList ++ ':' :: (v ++ (cs ++ (w' ++ ['}']))))) [(key, j)]
  | more {w v cs ds : List Char} (key : String) {j : Json} {ms : List (String × Json)}
      (before : Blank w) (between : Blank v) (h : Spells cs j) (hs : MembersSpell ds ms) :
      MembersSpell (w ++ ((quote key).toList ++ ':' :: (v ++ (cs ++ ',' :: ds)))) ((key, j) :: ms)

end

theorem Blank.nil : Blank [] := by
  intro c h
  cases h

theorem skipSpace_append {w : List Char} (h : Blank w) (cs : List Char) :
    skipSpace (w ++ cs) = skipSpace cs :=
  List.dropWhile_append_of_pos h

theorem skipSpace_cons {c : Char} (h : isSpace c = false) (cs : List Char) :
    skipSpace (c :: cs) = c :: cs := by
  simp [skipSpace, h]

theorem skipSpace_skipSpace (cs : List Char) : skipSpace (skipSpace cs) = skipSpace cs :=
  List.dropWhile_idempotent isSpace cs

theorem readValue_skipSpace (n : Nat) (cs : List Char) :
    readValue n (skipSpace cs) = readValue n cs := by
  cases n with
  | zero => rfl
  | succ n => rw [readValue, readValue, skipSpace_skipSpace]

theorem readItems_skipSpace (n : Nat) (cs : List Char) :
    readItems n (skipSpace cs) = readItems n cs := by
  cases n with
  | zero => rfl
  | succ n => rw [readItems, readItems, readValue_skipSpace]

theorem readMembers_skipSpace (n : Nat) (cs : List Char) :
    readMembers n (skipSpace cs) = readMembers n cs := by
  cases n with
  | zero => rfl
  | succ n => rw [readMembers, readMembers, skipSpace_skipSpace]

theorem isSpace_of_isDigit {c : Char} (h : c.isDigit = true) : isSpace c = false := by
  simp only [isSpace, Bool.or_eq_false_iff, beq_eq_false_iff_ne]
  refine ⟨⟨⟨?_, ?_⟩, ?_⟩, ?_⟩ <;> (rintro rfl; exact absurd h (by decide))

theorem toList_quote (text : String) :
    (quote text).toList = '"' :: (text.toList.flatMap escapeChar ++ ['"']) := by
  simp [quote]

/-- A document begins with a character that is neither white space nor a closing bracket. -/
theorem Spells.head {cs : List Char} {j : Json} (h : Spells cs j) :
    ∃ c tail, cs = c :: tail ∧ isSpace c = false ∧ c ≠ ']' := by
  cases h with
  | null => exact ⟨_, _, rfl, rfl, by decide⟩
  | yes => exact ⟨_, _, rfl, rfl, by decide⟩
  | no => exact ⟨_, _, rfl, rfl, by decide⟩
  | @nat n _ =>
      obtain ⟨c, tail, front, digit⟩ := Text.digits_eq_cons n
      refine ⟨c, tail, front, isSpace_of_isDigit digit, ?_⟩
      rintro rfl
      exact absurd digit (by decide)
  | str text => exact ⟨_, _, toList_quote text, rfl, by decide⟩
  | emptyArr => exact ⟨_, _, rfl, rfl, by decide⟩
  | emptyObj => exact ⟨_, _, rfl, rfl, by decide⟩
  | arr _ => exact ⟨_, _, rfl, rfl, by decide⟩
  | obj _ => exact ⟨_, _, rfl, rfl, by decide⟩

theorem EndsNumber.cons {c : Char} {cs : List Char} (h : c.isDigit = false)
    (h' : c ≠ '.' ∧ c ≠ 'e' ∧ c ≠ 'E') : EndsNumber (c :: cs) := by
  intro d same
  obtain rfl := Option.some.inj same
  exact ⟨h, h'⟩

theorem EndsNumber.append {w cs : List Char} (hw : Blank w) (h : EndsNumber cs) :
    EndsNumber (w ++ cs) := by
  cases w with
  | nil => exact h
  | cons c tail =>
      have space : isSpace c = true := hw c (.head _)
      simp only [isSpace, Bool.or_eq_true, beq_iff_eq] at space
      obtain ((rfl | rfl) | rfl) | rfl := space <;> exact .cons rfl (by decide)

theorem ItemsSpell.start {cs : List Char} {items : List Json} (h : ItemsSpell cs items)
    (rest : List Char) : ∃ c tail, skipSpace (cs ++ rest) = c :: tail ∧ c ≠ ']' := by
  cases h with
  | last before h _ | more before h _ =>
      obtain ⟨c, tail, rfl, space, bracket⟩ := h.head
      rw [List.append_assoc, skipSpace_append before, List.append_assoc, List.cons_append,
        skipSpace_cons space]
      exact ⟨c, _, rfl, bracket⟩

theorem MembersSpell.start {cs : List Char} {members : List (String × Json)}
    (h : MembersSpell cs members) (rest : List Char) :
    ∃ tail, skipSpace (cs ++ rest) = '"' :: tail := by
  cases h with
  | last key before _ _ _ | more key before _ _ _ =>
      rw [List.append_assoc, skipSpace_append before, toList_quote, List.append_assoc,
        List.cons_append, skipSpace_cons rfl]
      exact ⟨_, rfl⟩

theorem objectOf_readable (members : List (String × Json)) :
    objectOf (members.map fun m => (some m.1.toList, m.2)) = .obj members := by
  have read : (members.map fun m => (some m.1.toList, m.2)).mapM
      (fun m => m.1.map fun key => (String.ofList key, m.2)) = some members := by
    induction members with
    | nil => rfl
    | cons m ms ih => simp [ih]
  rw [objectOf]
  simp only [read]

/-! ## Reading

The argument that bounds the reader falls by one with every call, and every second call takes a
character. -/

mutual

theorem readValue_of_spells : ∀ (n : Nat) {w cs : List Char} {j : Json} {rest : List Char},
    Blank w → Spells cs j → EndsNumber rest → 2 * (w ++ cs).length + 1 ≤ n →
    readValue n (w ++ (cs ++ rest)) = some (j, rest)
  | 0, _, _, _, _, _, _, _, bound => by omega
  | n + 1, w, cs, j, rest, before, h, ends, bound => by
      obtain ⟨c, tail, front, space, _⟩ := h.head
      have start : skipSpace (w ++ (cs ++ rest)) = cs ++ rest := by
        rw [skipSpace_append before, front]
        exact skipSpace_cons space _
      rw [readValue, start]
      rw [List.length_append] at bound
      cases h with
      | null => rfl
      | yes => rfl
      | no => rfl
      | @nat k small =>
          obtain ⟨c', tail', front', digit⟩ := Text.digits_eq_cons k
          obtain ⟨rfl, rfl⟩ := List.cons.inj (front.symm.trans front')
          have read := readNumber_digits small ends
          rw [front] at read ⊢
          have other : ∀ d : Char, d.isDigit = false → c ≠ d := by
            rintro d not rfl
            exact absurd digit (by simp [not])
          -- No other value begins with a digit.
          simp only [List.cons_append] at read ⊢
          split
          case h_8 same =>
            obtain ⟨rfl, rfl⟩ := List.cons.inj same
            exact read
          case h_1 same => exact nomatch same
          all_goals
            next same => exact absurd (List.cons.inj same).1 (other _ rfl)
      | str text =>
          rw [toList_quote, List.cons_append, List.append_assoc]
          simp only
          rw [List.singleton_append, readString_flatMap_escapeChar]
          simp
      | emptyArr => rfl
      | emptyObj => rfl
      | @arr ds items h =>
          -- The first item cannot be taken for the bracket that closes an empty array.
          obtain ⟨d, more, shape, bracket⟩ := h.start rest
          have read := readItems_of_spells n rest h (by simp at bound; omega)
          rw [← readItems_skipSpace, shape] at read
          simp only [List.cons_append, shape]
          split
          next same => exact absurd (List.cons.inj same).1 bracket
          next =>
            rw [read]
            rfl
      | @obj ds members h =>
          obtain ⟨more, shape⟩ := h.start rest
          have read := readMembers_of_spells n rest h (by simp at bound; omega)
          rw [← readMembers_skipSpace, shape] at read
          simp only [List.cons_append, shape]
          split
          next same => exact absurd (List.cons.inj same).1 (by decide)
          next => rw [read, Option.map_some, objectOf_readable]

theorem readItems_of_spells : ∀ (n : Nat) {cs : List Char} {items : List Json}
    (rest : List Char), ItemsSpell cs items → 2 * cs.length + 2 ≤ n →
    readItems n (cs ++ rest) = some (items, rest)
  | 0, _, _, _, _, bound => by omega
  | n + 1, _, _, rest, h, bound => by
      rw [readItems]
      cases h with
      | @last w cs w' j before h after =>
          have value : readValue n (w ++ (cs ++ (w' ++ ']' :: rest))) =
              some (j, w' ++ ']' :: rest) :=
            readValue_of_spells n before h (.append after (.cons rfl (by decide)))
              (by simp at bound ⊢; omega)
          have close : skipSpace (w' ++ (']' :: rest)) = ']' :: rest := by
            rw [skipSpace_append after]
            exact skipSpace_cons rfl _
          simp only [List.append_assoc, List.singleton_append, value, close]
      | @more w cs ds j js before h hs =>
          have value : readValue n (w ++ (cs ++ ',' :: (ds ++ rest))) =
              some (j, ',' :: (ds ++ rest)) :=
            readValue_of_spells n before h (.cons rfl (by decide)) (by simp at bound ⊢; omega)
          have items := readItems_of_spells n rest hs (by simp at bound; omega)
          have comma : skipSpace (',' :: (ds ++ rest)) = ',' :: (ds ++ rest) :=
            skipSpace_cons rfl _
          simp only [List.append_assoc, List.cons_append, value, comma, items, Option.map_some]

theorem readMembers_of_spells : ∀ (n : Nat) {cs : List Char} {members : List (String × Json)}
    (rest : List Char), MembersSpell cs members → 2 * cs.length + 2 ≤ n →
    readMembers n (cs ++ rest) = some (members.map fun m => (some m.1.toList, m.2), rest)
  | 0, _, _, _, _, bound => by omega
  | n + 1, _, _, rest, h, bound => by
      rw [readMembers]
      cases h with
      | @last w v cs w' key j before between h after =>
          have value : readValue n (v ++ (cs ++ (w' ++ '}' :: rest))) =
              some (j, w' ++ '}' :: rest) :=
            readValue_of_spells n between h (.append after (.cons rfl (by decide)))
              (by simp at bound ⊢; omega)
          have close : skipSpace (w' ++ ('}' :: rest)) = '}' :: rest := by
            rw [skipSpace_append after]
            exact skipSpace_cons rfl _
          rw [List.append_assoc, skipSpace_append before, toList_quote, List.append_assoc,
            List.cons_append, skipSpace_cons rfl]
          simp only [List.append_assoc, List.nil_append, List.cons_append,
            readString_flatMap_escapeChar, skipSpace_cons (c := ':') rfl, value, close]
          rfl
      | @more w v cs ds key j ms before between h hs =>
          have value : readValue n (v ++ (cs ++ ',' :: (ds ++ rest))) =
              some (j, ',' :: (ds ++ rest)) :=
            readValue_of_spells n between h (.cons rfl (by decide)) (by simp at bound ⊢; omega)
          have members := readMembers_of_spells n rest hs (by simp at bound; omega)
          have comma : skipSpace (',' :: (ds ++ rest)) = ',' :: (ds ++ rest) :=
            skipSpace_cons rfl _
          rw [List.append_assoc, skipSpace_append before, toList_quote, List.append_assoc,
            List.cons_append, skipSpace_cons rfl]
          simp only [List.append_assoc, List.nil_append, List.cons_append,
            readString_flatMap_escapeChar, skipSpace_cons (c := ':') rfl, value, comma, members]
          rfl

end

theorem read_of_spells {text : String} {j : Json} (h : Spells text.toList j) :
    read text = some j := by
  have none : EndsNumber [] := by rintro c ⟨⟩
  have value := readValue_of_spells (2 * text.toList.length + 1) .nil h none (by simp)
  rw [List.nil_append, List.append_nil] at value
  simp [read, value, skipSpace]

end Json

end ArchLint
