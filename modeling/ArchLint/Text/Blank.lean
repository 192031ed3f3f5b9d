import ArchLint.Text.Run

/-! # White space

The Unicode property `White_Space`: the characters that margins of names, patterns and tokens are
made of.

* `isBlank` — the class itself.
* `stripBy` — a text without the characters of a class at its ends, which loses no others
  (`mem_stripBy_iff`).
* `trim` — a text without its margins.
* `allBlank` — nothing but margin.
-/

namespace ArchLint.Text

/-- White space beyond ASCII. -/
def blankRuns : List Run :=
  [⟨0x85, 0x85, 1⟩, ⟨0xA0, 0xA0, 1⟩, ⟨0x1680, 0x1680, 1⟩, ⟨0x2000, 0x200A, 1⟩,
   ⟨0x2028, 0x2029, 1⟩, ⟨0x202F, 0x202F, 1⟩, ⟨0x205F, 0x205F, 1⟩, ⟨0x3000, 0x3000, 1⟩]

/-- The character is white space. -/
def isBlank (c : Char) : Bool :=
  if c.toNat < 0x80 then (0x09 ≤ c.toNat && c.toNat ≤ 0x0D) || c.toNat == 0x20
  else anyCovers blankRuns c.toNat

/-- The text without the characters of a class at its two ends. -/
def stripBy (p : Char → Bool) (cs : List Char) : List Char :=
  ((cs.dropWhile p).reverse.dropWhile p).reverse

section

variable {p : Char → Bool} {cs : List Char} {c : Char}

theorem dropWhile_eq_self (front : ∀ c ∈ cs.head?, p c = false) : cs.dropWhile p = cs := by
  cases cs with
  | nil => rfl
  | cons c cs => simp [front c rfl]

/-- A text is left as it is if its two ends are no characters of the class. -/
theorem stripBy_eq_self_of_ends (front : ∀ c ∈ cs.head?, p c = false)
    (back : ∀ c ∈ cs.getLast?, p c = false) : stripBy p cs = cs := by
  rw [← List.head?_reverse] at back
  rw [stripBy, dropWhile_eq_self front, dropWhile_eq_self back, List.reverse_reverse]

/-- A text without characters of the class is left as it is. -/
theorem stripBy_eq_self (h : ∀ c ∈ cs, p c = false) : stripBy p cs = cs :=
  stripBy_eq_self_of_ends (fun c mem => h c (List.mem_of_head? mem))
    fun c mem => h c (List.mem_of_getLast? mem)

theorem mem_dropWhile_iff (other : p c = false) : c ∈ cs.dropWhile p ↔ c ∈ cs := by
  induction cs with
  | nil => rfl
  | cons d cs ih =>
    by_cases drops : p d = true
    · have apart : c ≠ d := by
        rintro rfl
        simp [drops] at other
      simp [drops, ih, apart]
    · simp [drops]

/-- Only characters of the class are lost. -/
theorem mem_stripBy_iff (other : p c = false) : c ∈ stripBy p cs ↔ c ∈ cs := by
  rw [stripBy, List.mem_reverse, mem_dropWhile_iff other, List.mem_reverse, mem_dropWhile_iff other]

theorem eq_false_of_mem_head?_stripBy (mem : c ∈ (stripBy p cs).head?) : p c = false := by
  -- What is cut off behind leaves the front as it is.
  obtain ⟨after, whole⟩ : stripBy p cs <+: cs.dropWhile p := by
    rw [← List.reverse_suffix, stripBy, List.reverse_reverse]
    exact List.dropWhile_suffix p
  have head := List.head?_dropWhile_not p cs
  rw [← whole, List.head?_append, Option.mem_def.1 mem] at head
  exact head

theorem eq_false_of_mem_getLast?_stripBy (mem : c ∈ (stripBy p cs).getLast?) : p c = false := by
  rw [stripBy, List.getLast?_reverse, Option.mem_def] at mem
  simpa [mem] using List.head?_dropWhile_not p (cs.dropWhile p).reverse

theorem stripBy_map (f : Char → Char) : stripBy p (cs.map f) = (stripBy (p ∘ f) cs).map f := by
  simp only [stripBy, List.dropWhile_map, ← List.map_reverse]

/-- Margins are lost. -/
theorem stripBy_append_append {front back : List Char} (hf : ∀ c ∈ front, p c = true)
    (hb : ∀ c ∈ back, p c = true) : stripBy p (front ++ (cs ++ back)) = stripBy p cs := by
  rw [stripBy, List.dropWhile_append_of_pos hf, List.dropWhile_append]
  split
  next empty =>
    rw [List.isEmpty_iff] at empty
    rw [stripBy, empty, ← List.append_nil back, List.dropWhile_append_of_pos hb]
    rfl
  next =>
    have behind : ∀ c ∈ back.reverse, p c = true := fun c mem => hb c (List.mem_reverse.1 mem)
    rw [List.reverse_append, List.dropWhile_append_of_pos behind, stripBy]

end

/-- The text without white space at its two ends. -/
def trim (s : String) : String :=
  String.ofList (stripBy isBlank s.toList)

/-- The text is empty or white space alone. -/
def allBlank (s : String) : Bool :=
  s.toList.all isBlank

end ArchLint.Text
