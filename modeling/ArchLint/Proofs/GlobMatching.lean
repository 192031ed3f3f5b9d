import Mathlib.Data.List.Chain
import Mathlib.Data.List.Infix
import Mathlib.Data.Option.Basic
import ArchLint.Path.Pattern

/-! # What a wildcard pattern matches

The matcher tries the readings of a wildcard from the shortest to the longest and abandons the whole
search when the text runs out. Plain matching lets each wildcard take any text it may take. The two
agree on compiled patterns: two stars, which may end only behind a slash, stand there at the start,
behind a slash, or behind two stars, so what a later reading of an earlier wildcard leaves for them is
a place that they could have reached by themselves.

* `Matches` — plain matching.
* `run_eq_matched_iff` — the matcher finds a match exactly if there is one.
* `compile_recursive` — a pair of stars in front of a pattern stands in front of its tokens.
* `matchesBelow_iff` — a pattern and the same with a pair of stars in front match from any directory.
* `compile_fragment` — the tokens of a text without wildcards between pairs of stars.
-/

namespace ArchLint.Glob

/-! ## Plain matching -/

/-- What two stars may leave of a text: all of it, what follows one of its slashes, or nothing. -/
def Resumes (text rest : List Char) : Prop :=
  rest = text ∨ (∃ taken, text = taken ++ '/' :: rest) ∨ rest = []

/-- The tokens match the whole text, each wildcard taking any text it may take. -/
inductive Matches : List Token → List Char → Prop
  | done : Matches [] []
  | char {t ts c cs} : t.takes c = true → Matches ts cs → Matches (t :: ts) (c :: cs)
  | sequence {ts text rest} : rest <:+ text → Matches ts rest → Matches (.anySequence :: ts) text
  | recursive {ts text rest} : Resumes text rest → Matches ts rest →
      Matches (.anyRecursive :: ts) text

variable {t : Token} {ts : List Token} {text rest : List Char}

theorem matches_sequence_iff :
    Matches (.anySequence :: ts) text ↔ ∃ rest, rest <:+ text ∧ Matches ts rest := by
  constructor
  · intro h
    cases h with
    | char takes _ => cases takes
    | sequence leaves tail => exact ⟨_, leaves, tail⟩
  · rintro ⟨rest, leaves, tail⟩
    exact .sequence leaves tail

theorem matches_recursive_iff :
    Matches (.anyRecursive :: ts) text ↔ ∃ rest, Resumes text rest ∧ Matches ts rest := by
  constructor
  · intro h
    cases h with
    | char takes _ => cases takes
    | recursive leaves tail => exact ⟨_, leaves, tail⟩
  · rintro ⟨rest, leaves, tail⟩
    exact .recursive leaves tail

namespace Resumes

theorem refl (text : List Char) : Resumes text text :=
  .inl rfl

theorem suffix (h : Resumes text rest) : rest <:+ text := by
  rcases h with rfl | ⟨taken, rfl⟩ | rfl
  · exact List.suffix_refl _
  · exact ⟨taken ++ ['/'], by simp⟩
  · exact List.nil_suffix

theorem trans {further : List Char} (first : Resumes text rest) (second : Resumes rest further) :
    Resumes text further := by
  rcases second with rfl | ⟨taken, rfl⟩ | rfl
  · exact first
  · obtain ⟨before, rfl⟩ := first.suffix
    exact .inr (.inl ⟨before ++ taken, by simp⟩)
  · exact .inr (.inr rfl)

/-- A place that is reached and lies behind another one is also reached from there. -/
theorem of_suffix {further : List Char} (far : Resumes text further) (near : rest <:+ text)
    (behind : further <:+ rest) : Resumes rest further := by
  rcases far with rfl | ⟨taken, rfl⟩ | rfl
  · exact .inl (near.eq_of_length_le behind.length_le).symm
  · obtain ⟨before, whole⟩ := near
    obtain ⟨gap, rfl⟩ := behind
    rcases List.eq_nil_or_concat gap with rfl | ⟨gap, last, rfl⟩
    · exact .inl rfl
    -- What lies between the two places ends where the text before the far one does, with a slash.
    · have lasts : before ++ gap ++ [last] = taken ++ ['/'] := by
        apply List.append_cancel_right
        simpa using whole
      obtain ⟨-, slash⟩ := List.append_inj' lasts rfl
      obtain rfl : last = '/' := by simpa using slash
      exact .inr (.inl ⟨gap, by simp⟩)
  · exact .inr (.inr rfl)

end Resumes

/-- Tokens that match the empty text are wildcards, which match any text. -/
theorem Matches.of_nil (h : Matches ts []) (nonempty : ts ≠ []) (text : List Char) : Matches ts text := by
  cases h with
  | done => exact absurd rfl nonempty
  | sequence leaves tail =>
    obtain rfl := List.suffix_nil.1 leaves
    exact .sequence List.nil_suffix tail
  | recursive leaves tail =>
    obtain rfl := List.suffix_nil.1 leaves.suffix
    exact .recursive (.inr (.inr rfl)) tail

/-- Two stars in front of other tokens need not take all of the text. -/
theorem matches_recursive_iff_of_ne_nil (nonempty : ts ≠ []) : Matches (.anyRecursive :: ts) text ↔
    Matches ts text ∨ ∃ before rest, text = before ++ '/' :: rest ∧ Matches ts rest := by
  rw [matches_recursive_iff]
  constructor
  · rintro ⟨rest, rfl | ⟨before, whole⟩ | rfl, tail⟩
    · exact .inl tail
    · exact .inr ⟨before, rest, whole, tail⟩
    · exact .inl (tail.of_nil nonempty text)
  · rintro (tail | ⟨before, rest, whole, tail⟩)
    · exact ⟨text, .refl text, tail⟩
    · exact ⟨rest, .inr (.inl ⟨before, whole⟩), tail⟩

/-! ## The order of the search -/

/-- The places at which a wildcard may end, in the order in which the matcher tries them. -/
def ends (mayEndOn : Char → Bool) (text : List Char) : List (List Char) :=
  text :: go text
where
  go : List Char → List (List Char)
    | [] => [[]]
    | c :: cs => if mayEndOn c then cs :: go cs else go cs

section

variable {mayEndOn : Char → Bool} {next : List Char → Outcome}

theorem mem_ends : rest ∈ ends mayEndOn text ↔
    rest = text ∨ (∃ taken c, text = taken ++ c :: rest ∧ mayEndOn c = true) ∨ rest = [] := by
  have later : rest ∈ ends.go mayEndOn text ↔
      (∃ taken c, text = taken ++ c :: rest ∧ mayEndOn c = true) ∨ rest = [] := by
    induction text with
    | nil => simp [ends.go]
    | cons c cs ih =>
      -- A character on which the wildcard may end is the first one or a later one.
      have split : (∃ taken d, c :: cs = taken ++ d :: rest ∧ mayEndOn d = true) ↔
          (mayEndOn c = true ∧ rest = cs) ∨ ∃ taken d, cs = taken ++ d :: rest ∧ mayEndOn d = true := by
        constructor
        · rintro ⟨_ | ⟨b, taken⟩, d, whole, stop⟩
          · obtain ⟨rfl, rfl⟩ := List.cons.inj whole
            exact .inl ⟨stop, rfl⟩
          · exact .inr ⟨taken, d, (List.cons.inj whole).2, stop⟩
        · rintro (⟨stop, rfl⟩ | ⟨taken, d, rfl, stop⟩)
          · exact ⟨[], c, rfl, stop⟩
          · exact ⟨c :: taken, d, rfl, stop⟩
      rw [split, or_assoc, ← ih, ends.go]
      by_cases stop : mayEndOn c = true <;> simp [stop]
  rw [ends, List.mem_cons, later]

theorem mem_ends_any : rest ∈ ends (fun _ => true) text ↔ rest <:+ text := by
  rw [mem_ends]
  constructor
  · rintro (rfl | ⟨taken, c, rfl, -⟩ | rfl)
    · exact List.suffix_refl _
    · exact ⟨taken ++ [c], by simp⟩
    · exact List.nil_suffix
  · rintro ⟨taken, rfl⟩
    rcases List.eq_nil_or_concat taken with rfl | ⟨taken, c, rfl⟩
    · exact .inl rfl
    · exact .inr (.inl ⟨taken, c, by simp, rfl⟩)

theorem mem_ends_slash : rest ∈ ends (· == '/') text ↔ Resumes text rest := by
  simp [mem_ends, Resumes]

/-- Places are tried from the front of the text to its end. -/
theorem pairwise_ends (mayEndOn : Char → Bool) (text : List Char) :
    (ends mayEndOn text).Pairwise fun near far => far <:+ near := by
  have later : (∀ far ∈ ends.go mayEndOn text, far <:+ text) ∧
      (ends.go mayEndOn text).Pairwise fun near far => far <:+ near := by
    induction text with
    | nil => simp [ends.go]
    | cons c cs ih =>
      obtain ⟨below, ordered⟩ := ih
      have beyond : ∀ far ∈ ends.go mayEndOn cs, far <:+ c :: cs := fun far mem =>
        (below far mem).trans (List.suffix_cons c cs)
      rw [ends.go]
      split
      · exact ⟨List.forall_mem_cons.2 ⟨List.suffix_cons c cs, beyond⟩, ordered.cons below⟩
      · exact ⟨beyond, ordered⟩
  exact later.2.cons later.1

theorem resume_eq_find : resume mayEndOn next text =
    (((ends.go mayEndOn text).find? (next · != .mismatch)).map next).getD .mismatch := by
  induction text with
  | nil => cases out : next [] <;> simp [resume, ends.go, out]
  | cons c cs ih =>
    rw [resume, ends.go]
    split
    · cases out : next cs <;> simp [out, ih]
    · exact ih

/-- A wildcard has the outcome of the first place that does not fail. -/
theorem wildcard_eq_find : wildcard mayEndOn next text =
    (((ends mayEndOn text).find? (next · != .mismatch)).map next).getD .mismatch := by
  rw [wildcard, resume_eq_find, ends]
  cases out : next text <;> simp [out]

/-- Either every place fails, or the outcome is that of a place behind which everything lies that has
not failed. -/
theorem wildcard_cases (mayEndOn : Char → Bool) (next : List Char → Outcome) (text : List Char) :
    (wildcard mayEndOn next text = .mismatch ∧
      ∀ rest ∈ ends mayEndOn text, next rest = .mismatch) ∨
    ∃ near ∈ ends mayEndOn text, wildcard mayEndOn next text = next near ∧ next near ≠ .mismatch ∧
      ∀ far ∈ ends mayEndOn text, next far = .mismatch ∨ far <:+ near := by
  rw [wildcard_eq_find]
  cases found : (ends mayEndOn text).find? (next · != .mismatch) with
  | none => exact .inl ⟨rfl, by simpa using found⟩
  | some near =>
    obtain ⟨stop, before, after, places, failing⟩ := List.find?_eq_some_iff_append.1 found
    have ordered := pairwise_ends mayEndOn text
    rw [places] at ordered
    have order := (List.pairwise_append.1 ordered).2.1
    refine .inr ⟨near, by simp [places], rfl, by simpa using stop, fun far mem => ?_⟩
    rw [places, List.mem_append, List.mem_cons] at mem
    rcases mem with tried | rfl | untried
    · exact .inl (by simpa using failing far tried)
    · exact .inr (List.suffix_refl _)
    · exact .inr (List.rel_of_pairwise_cons order untried)

end

/-! ## The matcher -/

/-- Two stars stand at the start, behind a slash or behind two stars. -/
def Segmented (ts : List Token) : Prop :=
  ts.IsChain fun t u => u = .anyRecursive → t = .literal '/' ∨ t = .anyRecursive

/-- A later place of the text at which tokens may come to stand when an earlier wildcard takes more: if
they begin with two stars, one that two stars reach by themselves. -/
def LiesAhead (ts : List Token) (text rest : List Char) : Prop :=
  rest <:+ text ∧ (ts.head? = some .anyRecursive → Resumes text rest)

/-- What an outcome tells about plain matching. -/
def Outcome.Means (ts : List Token) (text : List Char) : Outcome → Prop
  | .matched => Matches ts text
  | .mismatch => ¬ Matches ts text
  | .exhausted => ∀ rest, LiesAhead ts text rest → ¬ Matches ts rest

theorem LiesAhead.refl (ts : List Token) (text : List Char) : LiesAhead ts text text :=
  ⟨List.suffix_refl _, fun _ => .refl _⟩

/-- The search of a wildcard is right if the search from each of its ends is: when the text runs out
at one end, every end that was not tried lies ahead of it. -/
theorem means_wildcard {mayEndOn : Char → Bool} (ih : ∀ rest, (run ts rest).Means ts rest)
    (splits : ∀ text, Matches (t :: ts) text ↔ ∃ rest ∈ ends mayEndOn text, Matches ts rest)
    (again : ∀ {rest place}, LiesAhead (t :: ts) text rest → place ∈ ends mayEndOn rest →
      place ∈ ends mayEndOn text)
    (ahead : ∀ {near far}, near ∈ ends mayEndOn text → far ∈ ends mayEndOn text → far <:+ near →
      LiesAhead ts near far) :
    (wildcard mayEndOn (run ts) text).Means (t :: ts) text := by
  have refuted : ∀ {rest}, run ts rest = .mismatch → ¬ Matches ts rest := fun {rest} failed => by
    have meaning := ih rest
    rwa [failed] at meaning
  rcases wildcard_cases mayEndOn (run ts) text with
    ⟨outcome, failing⟩ | ⟨near, mem, outcome, stop, order⟩
  · rw [outcome]
    intro whole
    obtain ⟨rest, mem, tail⟩ := (splits text).1 whole
    exact refuted (failing rest mem) tail
  · have meaning := ih near
    rw [outcome]
    cases found : run ts near with
    | matched =>
      rw [found] at meaning
      exact (splits text).2 ⟨near, mem, meaning⟩
    | mismatch => exact absurd found stop
    | exhausted =>
      rw [found] at meaning
      intro rest lies whole
      obtain ⟨far, place, tail⟩ := (splits rest).1 whole
      have place := again lies place
      -- An end before the one that ran out has failed already, and one behind it runs out as well.
      rcases order far place with failed | behind
      · exact refuted failed tail
      · exact meaning far (ahead mem place behind) tail

/-- A token for one character gives its search to the next one, or ends it. -/
theorem means_char (sequence : t ≠ .anySequence) (recursive : t ≠ .anyRecursive)
    (slash : ts.head? = some .anyRecursive → t = .literal '/')
    (ih : ∀ rest, (run ts rest).Means ts rest) : (run (t :: ts) text).Means (t :: ts) text := by
  have inversion : ∀ {text}, Matches (t :: ts) text →
      ∃ c cs, text = c :: cs ∧ t.takes c = true ∧ Matches ts cs := by
    intro text whole
    cases whole with
    | char takes tail => exact ⟨_, _, rfl, takes, tail⟩
    | sequence => exact absurd rfl sequence
    | recursive => exact absurd rfl recursive
  cases text with
  | nil =>
    have outcome : run (t :: ts) [] = .exhausted := by cases t <;> simp_all [run]
    rw [outcome]
    rintro rest ⟨behind, -⟩ whole
    obtain ⟨c, cs, rfl, -, -⟩ := inversion whole
    simp at behind
  | cons c cs =>
    have outcome : run (t :: ts) (c :: cs) = if t.takes c then run ts cs else .mismatch := by
      cases t <;> simp_all [run]
    rw [outcome]
    split
    next takes =>
      have meaning := ih cs
      cases found : run ts cs with
      | matched =>
        rw [found] at meaning
        exact .char takes meaning
      | mismatch =>
        rw [found] at meaning
        intro whole
        obtain ⟨_, _, same, -, tail⟩ := inversion whole
        cases same
        exact meaning tail
      | exhausted =>
        rw [found] at meaning
        rintro rest ⟨behind, -⟩ whole
        obtain ⟨d, ds, rfl, takesToo, tail⟩ := inversion whole
        rcases List.suffix_cons_iff.1 behind with same | ⟨taken, rfl⟩
        · cases same
          exact meaning cs (.refl ts cs) tail
        · refine meaning ds ⟨⟨taken ++ [d], by simp⟩, fun stars => ?_⟩ tail
          -- Two stars come next, so the character taken is a slash, behind which they may stand.
          obtain rfl := slash stars
          obtain rfl : '/' = d := by simpa [Token.takes] using takesToo
          exact .inr (.inl ⟨taken, rfl⟩)
    next rejects =>
      intro whole
      obtain ⟨_, _, same, takes, -⟩ := inversion whole
      cases same
      exact rejects takes

/-- Every outcome of the matcher is right about plain matching. -/
theorem means_run (segmented : Segmented ts) (text : List Char) : (run ts text).Means ts text := by
  -- The induction is on the tokens: a text may be searched from many places, the tokens only go down.
  induction ts generalizing text with
  | nil =>
    cases text with
    | nil => exact .done
    | cons c cs => exact fun h => by cases h
  | cons t ts ih =>
    obtain ⟨front, tail⟩ := List.isChain_cons.1 segmented
    have ih := ih tail
    have front : ts.head? = some .anyRecursive → t = .literal '/' ∨ t = .anyRecursive :=
      fun stars => front _ stars rfl
    by_cases sequence : t = .anySequence
    · subst sequence
      rw [run]
      refine means_wildcard ih (fun text => ?_) (fun lies place => ?_) (fun _ _ behind => ?_)
      · simp only [matches_sequence_iff, mem_ends_any]
      · rw [mem_ends_any] at place ⊢
        exact place.trans lies.1
      · exact ⟨behind, fun stars => by simpa using front stars⟩
    · by_cases recursive : t = .anyRecursive
      · subst recursive
        rw [run]
        refine means_wildcard ih (fun text => ?_) (fun lies place => ?_) (fun near far behind => ?_)
        · simp only [matches_recursive_iff, mem_ends_slash]
        · rw [mem_ends_slash] at place ⊢
          exact (lies.2 rfl).trans place
        · rw [mem_ends_slash] at near far
          exact ⟨behind, fun _ => far.of_suffix near.suffix behind⟩
      · exact means_char sequence recursive (fun stars => (front stars).resolve_right recursive) ih

/-- The matcher finds a match of a compiled pattern exactly if there is one. -/
theorem run_eq_matched_iff (segmented : Segmented ts) : run ts text = .matched ↔ Matches ts text := by
  have meaning := means_run segmented text
  cases outcome : run ts text with
  | matched =>
    rw [outcome] at meaning
    exact iff_of_true rfl meaning
  | mismatch =>
    rw [outcome] at meaning
    exact iff_of_false Outcome.noConfusion meaning
  | exhausted =>
    rw [outcome] at meaning
    exact iff_of_false Outcome.noConfusion (meaning text (.refl ts text))

/-! ## Reading a pattern -/

/-- The token at the front of a pattern, the character that what follows stands behind, and what
follows. -/
def firstToken (atStart : Bool) (c : Char) (cs : List Char) : Option (Token × Char × List Char) :=
  if c == '?' then some (.anyChar, c, cs)
  else if c == '*' then
    match cs with
    | '*' :: '*' :: _ => none
    | '*' :: rest =>
      if atStart then
        match rest with
        | [] => some (.anyRecursive, '/', [])
        | '/' :: rest => some (.anyRecursive, '/', rest)
        | _ :: _ => none
      else none
    | rest => some (.anySequence, '*', rest)
  else if c == '[' then (bracket cs).map fun (token, rest) => (token, ']', rest)
  else some (.literal c, c, cs)

/-- The tokens so far, last one first, with one more. -/
def Token.addTo (done : List Token) : Token → List Token
  | .anyRecursive => pushRecursive done
  | t => t :: done

theorem bracket_token {cs : List Char} (h : bracket cs = some (t, rest)) :
    (∃ set, t = .within set ∨ t = .except set) ∧ rest.length ≤ cs.length := by
  have shorter : ∀ {ds s}, untilBracket ds = some (s, rest) → rest.length ≤ ds.length := by
    intro ds s found
    rw [← untilBracket_append found, List.length_append, List.length_cons]
    omega
  rw [bracket.eq_def] at h
  split at h <;> simp only [Option.map_eq_some_iff, Prod.mk.injEq, reduceCtorEq] at h
  · obtain ⟨⟨s, r⟩, found, rfl, rfl⟩ := h
    exact ⟨⟨_, .inr rfl⟩, (shorter found).trans (Nat.le_add_right _ 2)⟩
  · obtain ⟨⟨s, r⟩, found, rfl, rfl⟩ := h
    exact ⟨⟨_, .inl rfl⟩, (shorter found).trans (Nat.le_add_right _ 1)⟩

theorem compileAfter_cons (n : Nat) (before : Option Char) (done : List Token) (c : Char)
    (cs : List Char) : compileAfter (n + 1) before done (c :: cs) =
      (firstToken (atSegmentStart before) c cs).bind fun (t, last, rest) =>
        compileAfter n (some last) (t.addTo done) rest := by
  rw [compileAfter.eq_def, firstToken.eq_def]
  dsimp only
  split
  · rfl
  · split
    · split
      · rfl
      · split
        next start => split <;> simp_all [Token.addTo, compileAfter]
        next start => simp_all
      · simp_all [Token.addTo]
    · split
      · cases h : bracket cs with
        | none => rfl
        | some found =>
          obtain ⟨token, rest⟩ := found
          obtain ⟨⟨set, rfl | rfl⟩, -⟩ := bracket_token h
          · rfl
          · rfl
      · rfl

/-- Two stars are read only where a segment starts, and a segment starts only behind them or behind a
slash. -/
theorem firstToken_spec {atStart : Bool} {c last : Char} {cs : List Char}
    (h : firstToken atStart c cs = some (t, last, rest)) :
    rest.length ≤ cs.length ∧ (t = .anyRecursive → atStart = true) ∧
      (last = '/' → t = .literal '/' ∨ t = .anyRecursive) := by
  rw [firstToken.eq_def] at h
  split at h
  next => cases h; simp_all
  next =>
    split at h
    next =>
      split at h
      · cases h
      · split at h
        next start =>
          split at h
          · cases h; simp_all
          · cases h; simp_all; omega
          · cases h
        next => cases h
      · cases h; simp
    next =>
      split at h
      next =>
        obtain ⟨⟨token, after⟩, found, same⟩ := Option.map_eq_some_iff.1 h
        cases same
        obtain ⟨⟨set, rfl | rfl⟩, shorter⟩ := bracket_token found
        · simp [shorter]
        · simp [shorter]
      next => cases h; simp

theorem addTo_cases (done : List Token) (t : Token) :
    t.addTo done = t :: done ∨ (t.addTo done = done ∧ done.head? = some t) := by
  rw [Token.addTo.eq_def]
  split
  · rw [pushRecursive.eq_def]
    split
    · exact .inr ⟨rfl, rfl⟩
    · exact .inl rfl
  · exact .inl rfl

/-- The tokens read so far, last one first, are in order, and two stars may follow wherever the reader
allows them. -/
structure Ready (before : Option Char) (done : List Token) : Prop where
  segmented : Segmented done.reverse
  start : atSegmentStart before = true → ∀ t ∈ done.head?, t = .literal '/' ∨ t = .anyRecursive

theorem Ready.step {before : Option Char} {done : List Token} {c last : Char} {cs : List Char}
    (ready : Ready before done)
    (h : firstToken (atSegmentStart before) c cs = some (t, last, rest)) :
    Ready (some last) (t.addTo done) := by
  obtain ⟨-, atStart, slash⟩ := firstToken_spec h
  have slash : atSegmentStart (some last) = true → t = .literal '/' ∨ t = .anyRecursive :=
    fun start => slash (by simpa [atSegmentStart] using start)
  rcases addTo_cases done t with pushed | ⟨kept, head⟩
  · rw [pushed]
    have segmented : Segmented (t :: done).reverse := by
      refine List.isChain_reverse.2 (List.isChain_cons.2 ⟨fun u mem stars => ?_, ?_⟩)
      · exact ready.start (atStart stars) u mem
      · exact List.isChain_reverse.1 ready.segmented
    exact ⟨segmented, fun start u mem => Option.some_inj.1 mem ▸ slash start⟩
  · rw [kept]
    exact ⟨ready.segmented, fun start u mem => by
      rw [head, Option.mem_some] at mem
      exact mem ▸ slash start⟩

/-- The tokens of a pattern are in order and come behind those there are. -/
theorem compileAfter_spec {n : Nat} {before : Option Char} {done : List Token} {cs : List Char}
    (ready : Ready before done) (h : compileAfter n before done cs = some ts) :
    Segmented ts ∧ done.reverse <+: ts := by
  induction n generalizing before done cs with
  | zero =>
    cases cs with
    | nil =>
      cases h
      exact ⟨ready.segmented, List.prefix_refl _⟩
    | cons c cs => cases h
  | succ n ih =>
    cases cs with
    | nil =>
      cases h
      exact ⟨ready.segmented, List.prefix_refl _⟩
    | cons c cs =>
      rw [compileAfter_cons] at h
      obtain ⟨⟨t, last, rest⟩, first, later⟩ := Option.bind_eq_some_iff.1 h
      obtain ⟨segmented, more⟩ := ih (ready.step first) later
      have kept : done <:+ t.addTo done := by
        rcases addTo_cases done t with pushed | ⟨kept, -⟩
        · exact pushed ▸ List.suffix_cons t done
        · rw [kept]
      exact ⟨segmented, (List.reverse_prefix.2 kept).trans more⟩

theorem Ready.init : Ready none [] :=
  ⟨.nil, by simp⟩

theorem segmented_of_compile {pattern : List Char} (h : compile pattern = some ts) : Segmented ts :=
  (compileAfter_spec .init h).1

/-- A pattern that is not empty has a token. -/
theorem ne_nil_of_compile {c : Char} {cs : List Char} (h : compile (c :: cs) = some ts) : ts ≠ [] := by
  rw [compile, List.length_cons, compileAfter_cons] at h
  obtain ⟨⟨t, last, rest⟩, first, later⟩ := Option.bind_eq_some_iff.1 h
  obtain ⟨-, more⟩ := compileAfter_spec (Ready.init.step first) later
  rintro rfl
  rcases addTo_cases [] t with pushed | ⟨-, head⟩
  · simp [pushed] at more
  · cases head

/-! ## Two stars in front -/

/-- The second list is the first one with two stars in front, unless a pair of them stands there
already. -/
def Doubled (ts us : List Token) : Prop :=
  us = .anyRecursive :: ts ∨ (us = ts ∧ ∃ more, ts = .anyRecursive :: .anyRecursive :: more)

theorem matches_recursive_twice :
    Matches (.anyRecursive :: .anyRecursive :: ts) text ↔ Matches (.anyRecursive :: ts) text := by
  simp only [matches_recursive_iff]
  constructor
  · rintro ⟨rest, first, further, second, tail⟩
    exact ⟨further, first.trans second, tail⟩
  · rintro ⟨rest, first, tail⟩
    exact ⟨rest, first, rest, .refl rest, tail⟩

theorem Doubled.matches_iff {us : List Token} (h : Doubled ts us) :
    Matches us text ↔ Matches (.anyRecursive :: ts) text := by
  rcases h with rfl | ⟨rfl, more, rfl⟩
  · exact Iff.rfl
  · exact matches_recursive_twice.symm

theorem pushRecursive_of_ne {t : Token} {done : List Token} (other : t ≠ .anyRecursive) :
    pushRecursive (t :: done) = .anyRecursive :: t :: done := by
  cases t <;> simp_all [pushRecursive]

/-- Reading goes on alike: the first list may take a pair of stars that the second one has. -/
theorem Doubled.addTo {done dones : List Token} (h : Doubled done.reverse dones.reverse) (t : Token) :
    Doubled (t.addTo done).reverse (t.addTo dones).reverse := by
  rcases h with front | ⟨same, more, front⟩
  · obtain rfl : dones = done ++ [.anyRecursive] := by simpa using congrArg List.reverse front
    by_cases stars : t = .anyRecursive
    · subst stars
      -- `pushRecursive` looks at no more than the last two tokens.
      match done with
      | [] => exact .inl rfl
      | [u] =>
        by_cases pair : u = .anyRecursive
        -- Here the two readings meet: the second list has its pair, and the first one takes it.
        · exact .inr ⟨by simp [Token.addTo, pushRecursive, pair], [],
            by simp [Token.addTo, pushRecursive, pair]⟩
        · exact .inl (by simp [Token.addTo, pushRecursive_of_ne pair])
      | u :: v :: done =>
        by_cases pair : u = .anyRecursive
        · exact .inl (by simp [Token.addTo, pushRecursive, pair])
        · exact .inl (by simp [Token.addTo, pushRecursive_of_ne pair])
    · have push : ∀ done, t.addTo done = t :: done := by
        cases t <;> simp_all [Token.addTo]
      exact .inl (by simp [push])
  · obtain rfl := List.reverse_injective same
    rcases addTo_cases dones t with pushed | ⟨kept, -⟩
    · exact .inr ⟨rfl, more ++ [t], by simp [pushed, front]⟩
    · exact .inr ⟨rfl, more, by rw [kept, front]⟩

theorem compileAfter_doubled {n m : Nat} {before before' : Option Char} {done dones : List Token}
    {cs : List Char} (hn : cs.length ≤ n) (hm : cs.length ≤ m)
    (same : atSegmentStart before = atSegmentStart before')
    (h : Doubled done.reverse dones.reverse) :
    Option.Rel Doubled (compileAfter n before done cs) (compileAfter m before' dones cs) := by
  induction n generalizing m before before' done dones cs with
  | zero =>
    obtain rfl := List.eq_nil_of_length_eq_zero (Nat.le_zero.1 hn)
    simp only [compileAfter]
    exact .some h
  | succ n ih =>
    cases cs with
    | nil =>
      simp only [compileAfter]
      exact .some h
    | cons c cs =>
      obtain ⟨m, rfl⟩ : ∃ k, m = k + 1 := Nat.exists_eq_succ_of_ne_zero (Nat.ne_zero_of_lt hm)
      rw [compileAfter_cons, compileAfter_cons, ← same]
      cases first : firstToken (atSegmentStart before) c cs with
      | none => exact .none
      | some found =>
        obtain ⟨t, last, rest⟩ := found
        have shorter := (firstToken_spec first).1
        simp only [List.length_cons, Nat.add_le_add_iff_right] at hn hm
        -- Behind the first token the two readings stand behind the same character.
        exact ih (shorter.trans hn) (shorter.trans hm) rfl (h.addTo t)

theorem compile_stars (pattern : List Char) : compile ('*' :: '*' :: '/' :: pattern) =
    compileAfter (pattern.length + 2) (some '/') [.anyRecursive] pattern :=
  rfl

/-- A pair of stars in front of a pattern stands in front of its tokens. -/
theorem compile_recursive (pattern : List Char) :
    Option.Rel Doubled (compile pattern) (compile ('*' :: '*' :: '/' :: pattern)) := by
  rw [compile_stars]
  exact compileAfter_doubled le_rfl (Nat.le_add_right _ 2) rfl (.inl rfl)

theorem accepts_iff {pattern : List Char} :
    accepts pattern text = true ↔ ∃ ts, compile pattern = some ts ∧ Matches ts text := by
  rw [accepts]
  cases compiled : compile pattern with
  | none => simp
  | some ts =>
    rw [beq_iff_eq, run_eq_matched_iff (segmented_of_compile compiled)]
    simp

/-- The pattern is valid and matches the text from one of its directories to the end. -/
def MatchesBelow (pattern text : List Char) : Prop :=
  ∃ ts, compile pattern = some ts ∧ Matches (.anyRecursive :: ts) text

theorem matchesBelow_iff_resumes {pattern : List Char} :
    MatchesBelow pattern text ↔ ∃ rest, Resumes text rest ∧ accepts pattern rest = true := by
  simp only [MatchesBelow, matches_recursive_iff, accepts_iff]
  constructor
  · rintro ⟨ts, compiled, rest, leaves, tail⟩
    exact ⟨rest, leaves, ts, compiled, tail⟩
  · rintro ⟨rest, leaves, ts, compiled, tail⟩
    exact ⟨ts, compiled, rest, leaves, tail⟩

theorem accepts_recursive_iff {pattern : List Char} :
    accepts ('*' :: '*' :: '/' :: pattern) text = true ↔ MatchesBelow pattern text := by
  rw [accepts_iff, MatchesBelow]
  have starred := compile_recursive pattern
  generalize compile pattern = plain at starred
  generalize compile ('*' :: '*' :: '/' :: pattern) = doubled at starred
  cases starred with
  | none => simp
  | some doubled => simp [doubled.matches_iff]

/-- Both readings of a pattern at once: as it stands, and with a pair of stars in front. -/
theorem matchesBelow_iff {pattern : List Char} : MatchesBelow pattern text ↔
    accepts pattern text = true ∨ accepts ('*' :: '*' :: '/' :: pattern) text = true := by
  rw [accepts_recursive_iff]
  have here : accepts pattern text = true → MatchesBelow pattern text := fun whole =>
    matchesBelow_iff_resumes.2 ⟨text, .refl text, whole⟩
  exact (or_iff_right_of_imp here).symm

/-- A pair of stars more in front changes nothing. -/
theorem matchesBelow_recursive {pattern : List Char} :
    MatchesBelow ('*' :: '*' :: '/' :: pattern) text ↔ MatchesBelow pattern text := by
  constructor
  · intro whole
    obtain ⟨place, first, inner⟩ := matchesBelow_iff_resumes.1 whole
    obtain ⟨rest, second, tail⟩ := matchesBelow_iff_resumes.1 (accepts_recursive_iff.1 inner)
    exact matchesBelow_iff_resumes.2 ⟨rest, first.trans second, tail⟩
  · intro whole
    exact matchesBelow_iff_resumes.2 ⟨text, .refl text, accepts_recursive_iff.2 whole⟩

/-! ## Patterns without wildcards -/

theorem isWildcard_cons {c : Char} {cs : List Char} : isWildcard (c :: cs) = false ↔
    (c ≠ '*' ∧ c ≠ '?' ∧ c ≠ '[') ∧ isWildcard cs = false := by
  simp [isWildcard, and_assoc]

theorem compileAfter_literals {text cs : List Char} (plain : isWildcard text = false) (n : Nat)
    (before : Option Char) (done : List Token) :
    compileAfter (text.length + n) before done (text ++ cs) =
      compileAfter n (text.getLast?.or before) ((text.map .literal).reverse ++ done) cs := by
  induction text generalizing before done with
  | nil => simp
  | cons c text ih =>
    obtain ⟨⟨star, question, bracket⟩, plain⟩ := isWildcard_cons.1 plain
    have first : firstToken (atSegmentStart before) c (text ++ cs) =
        some (.literal c, c, text ++ cs) := by
      simp [firstToken, star, question, bracket]
    have fuel : (c :: text).length + n = (text.length + n) + 1 := by simp; omega
    rw [fuel, List.cons_append, compileAfter_cons, first]
    simp only [Option.bind_some]
    rw [ih plain]
    simp [Token.addTo, List.getLast?_cons]

/-- Plain text between two pairs of stars reads as itself. -/
theorem compile_fragment {text : List Char} (plain : isWildcard text = false) :
    compile ('*' :: '*' :: '/' :: (text ++ ['/', '*', '*'])) =
      some (.anyRecursive :: ((text ++ ['/']).map .literal ++ [.anyRecursive])) := by
  have plain : isWildcard (text ++ ['/']) = false := by simp_all [isWildcard]
  have cut : text ++ ['/', '*', '*'] = (text ++ ['/']) ++ ['*', '*'] := by simp
  have fuel : ((text ++ ['/']) ++ ['*', '*']).length + 2 = (text ++ ['/']).length + 4 := by simp
  rw [compile_stars, cut, fuel, compileAfter_literals plain]
  simp [compileAfter, atSegmentStart, pushRecursive]

theorem matches_literals_iff {taken : List Char} :
    Matches (taken.map .literal ++ ts) text ↔ ∃ rest, text = taken ++ rest ∧ Matches ts rest := by
  induction taken generalizing text with
  | nil => simp
  | cons c taken ih =>
    constructor
    · intro whole
      cases whole with
      | char takes tail =>
        obtain ⟨rest, rfl, behind⟩ := ih.1 tail
        obtain rfl : c = _ := by simpa [Token.takes] using takes
        exact ⟨rest, rfl, behind⟩
    · rintro ⟨rest, rfl, tail⟩
      exact .char (by simp [Token.takes]) (ih.2 ⟨rest, rfl, tail⟩)

/-- Two stars alone match any text. -/
theorem matches_recursive_alone (text : List Char) : Matches [.anyRecursive] text :=
  .recursive (.inr (.inr rfl)) .done

/-- Plain text between two pairs of stars stands at a place that the first pair may leave. -/
theorem matchesBelow_fragment {name : List Char} (plain : isWildcard name = false) :
    MatchesBelow ('*' :: '*' :: '/' :: (name ++ ['/', '*', '*'])) text ↔
      ∃ rest, Resumes text rest ∧ name ++ ['/'] <+: rest := by
  have anything : ∀ rest, Matches [.anyRecursive] rest ↔ True := fun rest =>
    iff_true_intro (matches_recursive_alone rest)
  have begins : ∀ rest, (∃ after, rest = (name ++ ['/']) ++ after) ↔ name ++ ['/'] <+: rest :=
    fun rest => exists_congr fun after => eq_comm
  rw [MatchesBelow, compile_fragment plain]
  simp only [Option.some.injEq, exists_eq_left', matches_recursive_twice]
  rw [matches_recursive_iff]
  simp only [matches_literals_iff, anything, and_true, begins]

end ArchLint.Glob
