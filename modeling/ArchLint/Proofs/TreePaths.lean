import Mathlib.Data.List.Basic
import ArchLint.FileTree
import ArchLint.Path.Join
import ArchLint.Path.Order
import ArchLint.Proofs.PathSegments

/-! # Where paths lead in a tree

A path is followed from segment to segment, and two dots lead back to the directory passed through before.
So what a path leads to depends on its components alone: they say which names lead there from the top of
the tree, and paths of the same components that lead somewhere lead to the same place.

* `Path.place` — the names on the way to where a path leads.
* `FileTree.Lawful` — trees whose directories list proper names, each once.
* `FileTree.Goes`, `FileTree.Follows` — where one segment leads, and where several do.
* `FileTree.descend?_place` — a path leads to what lies at its place.
* `FileTree.at?_join` — the path of an entry leads to the entry.
-/

namespace ArchLint

/-! ## Places -/

namespace Path

/-- The names on the way after one more component: two dots take the last name back. -/
def stepTo (place : List String) : Component → List String
  | .root => []
  | .here => place
  | .parent => place.dropLast
  | .name n => place ++ [n]

/-- The names on the way from the top to where a path with these components leads, the outermost
first. -/
def place (components : List Component) : List String :=
  components.foldl stepTo []

/-! ## Paths of entries -/

/-- The name of an entry is put in the place of an empty last segment, or behind the last one. -/
theorem segments_join (dir : String) {name : String} (single : '/' ∉ name.toList) :
    (∃ front, Text.segments '/' dir.toList = front ++ [[]] ∧
        Text.segments '/' (join dir name).toList = front ++ [name.toList]) ∨
      Text.segments '/' (join dir name).toList =
        Text.segments '/' dir.toList ++ [name.toList] := by
  have last := Text.segments_of_not_mem single
  rw [join]
  split
  next bare =>
    rw [Bool.or_eq_true] at bare
    refine .inl ?_
    rcases bare with empty | slash
    · obtain rfl : dir = "" := by simpa using empty
      exact ⟨[], rfl, by simpa using last⟩
    · obtain ⟨front, whole⟩ := List.isSuffixOf_iff_suffix.1 slash
      refine ⟨Text.segments '/' front, ?_, ?_⟩
      · rw [← whole]
        exact Text.segments_append_cons '/' front []
      · have cut := Text.segments_append_cons '/' front name.toList
        rw [String.toList_append, ← whole]
        simpa [last] using cut
  next =>
    have cut := Text.segments_append_cons '/' dir.toList name.toList
    exact .inr (by simpa [last] using cut)

theorem startsWith_slash_iff {path : String} :
    Text.startsWith path "/" = true ↔ path.toList.head? = some '/' := by
  have single : "/".toList = ['/'] := rfl
  rw [Text.startsWith, single]
  cases path.toList with
  | nil => simp
  | cons c cs => simp [List.isPrefixOf, @eq_comm _ '/' c]

theorem relative_join {dir name : String} (relative : Text.startsWith dir "/" = false)
    (single : '/' ∉ name.toList) : Text.startsWith (join dir name) "/" = false := by
  rw [← Bool.not_eq_true, startsWith_slash_iff] at relative ⊢
  intro slash
  cases front : dir.toList with
  | nil =>
    obtain rfl : dir = "" := String.toList_inj.1 front
    have bare : join "" name = name := String.toList_inj.1 (by simp [join])
    rw [bare] at slash
    exact single (List.mem_of_head? slash)
  | cons c cs =>
    rw [front] at relative
    rw [join] at slash
    split at slash <;> simp_all

end Path

namespace FileTree

/-- What lies at a place. -/
def descend? : FileTree → List String → Option FileTree
  | t, [] => some t
  | .file _, _ :: _ => none
  | .directory entries, name :: rest => (entries.lookup name).bind (descend? · rest)

theorem descend?_append (t : FileTree) (ns ms : List String) :
    t.descend? (ns ++ ms) = (t.descend? ns).bind (descend? · ms) := by
  induction ns generalizing t with
  | nil => simp [descend?]
  | cons n ns ih =>
    cases t with
    | file => rfl
    | directory entries =>
      rw [List.cons_append, descend?, descend?]
      cases entries.lookup n with
      | none => rfl
      | some t => exact ih t

/-- A tree in which every directory lists each name once, and no name is empty or holds a slash. -/
inductive Lawful : FileTree → Prop
  | file (content : ByteArray) : Lawful (.file content)
  | directory {entries : List (String × FileTree)} (distinct : (entries.map Prod.fst).Nodup)
      (proper : ∀ e ∈ entries, e.1.toList ≠ [] ∧ '/' ∉ e.1.toList)
      (inner : ∀ e ∈ entries, Lawful e.2) : Lawful (.directory entries)

theorem lookup_of_mem {entries : List (String × FileTree)} (distinct : (entries.map Prod.fst).Nodup)
    {name : String} {t : FileTree} (mem : (name, t) ∈ entries) : entries.lookup name = some t := by
  obtain ⟨front, back, rfl⟩ := List.append_of_mem mem
  refine List.lookup_eq_some_iff.2 ⟨front, back, rfl, fun e he => ?_⟩
  rw [List.map_append, List.nodup_append] at distinct
  have apart := distinct.2.2 e.1 (List.mem_map_of_mem he) name (by simp)
  simpa using apart.symm

theorem mem_of_lookup {entries : List (String × FileTree)} {name : String} {t : FileTree}
    (listed : entries.lookup name = some t) : (name, t) ∈ entries := by
  obtain ⟨front, back, rfl, -⟩ := List.lookup_eq_some_iff.1 listed
  simp

/-! ## The way of a path -/

section Follow

variable {entries : List (String × FileTree)} {above : List FileTree} {s : List Char}
  {rest : List String}

/-- A segment is passed over, leads out, or is a name. -/
theorem componentOf?_cases (s : List Char) :
    (Path.componentOf? s = none ∧ (s = [] ∨ s = ['.'])) ∨
      (Path.componentOf? s = some .parent ∧ s = ['.', '.']) ∨
      (Path.componentOf? s = some (.name (String.ofList s)) ∧
        s ≠ [] ∧ s ≠ ['.'] ∧ s ≠ ['.', '.']) := by
  by_cases idle : s = [] ∨ s = ['.']
  · exact .inl ⟨by rcases idle with rfl | rfl <;> rfl, idle⟩
  · obtain ⟨empty, dot⟩ := not_or.1 idle
    by_cases up : s = ['.', '.']
    · exact .inr (.inl ⟨up ▸ rfl, up⟩)
    · exact .inr (.inr ⟨by simp [Path.componentOf?, empty, dot, up], empty, dot, up⟩)

theorem ofList_eq_iff {s : List Char} {text : String} : String.ofList s = text ↔ s = text.toList := by
  rw [← String.toList_inj, String.toList_ofList]

theorem follow_idle (idle : Path.componentOf? s = none) :
    (directory entries).follow above (String.ofList s :: rest) =
      (directory entries).follow above rest := by
  rcases componentOf?_cases s with ⟨-, rfl | rfl⟩ | ⟨c, -⟩ | ⟨c, -⟩
  · rfl
  · rfl
  · cases idle.symm.trans c
  · cases idle.symm.trans c

theorem follow_outside (up : Path.componentOf? s = some .parent) :
    (directory entries).follow [] (String.ofList s :: rest) = none := by
  rcases componentOf?_cases s with ⟨c, -⟩ | ⟨-, rfl⟩ | ⟨c, -⟩
  · cases up.symm.trans c
  · rfl
  · cases up.symm.trans c

theorem follow_parent (up : Path.componentOf? s = some .parent) {outer : FileTree} :
    (directory entries).follow (outer :: above) (String.ofList s :: rest) =
      outer.follow above rest := by
  rcases componentOf?_cases s with ⟨c, -⟩ | ⟨-, rfl⟩ | ⟨c, -⟩
  · cases up.symm.trans c
  · rfl
  · cases up.symm.trans c

theorem follow_name {n : String} (name : Path.componentOf? s = some (.name n)) :
    (directory entries).follow above (String.ofList s :: rest) =
      (entries.lookup n).bind fun t => t.follow (.directory entries :: above) rest := by
  rcases componentOf?_cases s with ⟨c, -⟩ | ⟨c, -⟩ | ⟨c, empty, dot, up⟩
  · cases name.symm.trans c
  · cases name.symm.trans c
  · obtain rfl : n = String.ofList s := by simpa using name.symm.trans c
    have here : ¬ ((String.ofList s).isEmpty || String.ofList s == ".") = true := by
      simpa [ofList_eq_iff] using ⟨empty, dot⟩
    have outside : ¬ (String.ofList s == "..") = true := by simpa [ofList_eq_iff] using up
    simp only [follow, here, outside]
    cases entries.lookup (String.ofList s) <;> rfl

end Follow

/-- Where one segment leads from a directory, `above` being the directories passed through: it stays there,
leaves the directory, or enters one of its entries. -/
inductive Goes (s : List Char) : FileTree → List FileTree → FileTree → List FileTree → Prop
  | stay {entries above} (idle : Path.componentOf? s = none) :
    Goes s (.directory entries) above (.directory entries) above
  | leave {entries outer above} (up : Path.componentOf? s = some .parent) :
    Goes s (.directory entries) (outer :: above) outer above
  | enter {entries above n t} (name : Path.componentOf? s = some (.name n))
      (listed : entries.lookup n = some t) :
    Goes s (.directory entries) above t (.directory entries :: above)

/-- Where several segments lead, one after the other. -/
inductive Follows : List (List Char) → FileTree → List FileTree → FileTree → List FileTree → Prop
  | nil {t above} : Follows [] t above t above
  | cons {s segments t above t₁ above₁ t' above'} (step : Goes s t above t₁ above₁)
      (others : Follows segments t₁ above₁ t' above') : Follows (s :: segments) t above t' above'

section Steps

variable {t t' found : FileTree} {above above' : List FileTree} {s : List Char}
  {segments : List (List Char)}

theorem Goes.follow_eq (h : Goes s t above t' above') (rest : List String) :
    t.follow above (String.ofList s :: rest) = t'.follow above' rest := by
  cases h with
  | stay idle => exact follow_idle idle
  | leave up => exact follow_parent up
  | enter name listed => rw [follow_name name, listed, Option.bind_some]

theorem exists_goes {rest : List String}
    (leads : t.follow above (String.ofList s :: rest) = some found) :
    ∃ t' above', Goes s t above t' above' := by
  cases t with
  | file => cases leads
  | directory entries =>
    rcases componentOf?_cases s with ⟨idle, -⟩ | ⟨up, -⟩ | ⟨name, -⟩
    · exact ⟨_, _, .stay idle⟩
    · cases above with
      | nil => cases (follow_outside up).symm.trans leads
      | cons outer above => exact ⟨_, _, .leave up⟩
    · rw [follow_name name] at leads
      obtain ⟨t, listed, -⟩ := Option.bind_eq_some_iff.1 leads
      exact ⟨_, _, .enter name listed⟩

theorem Follows.follow_eq (h : Follows segments t above t' above') (more : List String) :
    t.follow above (segments.map String.ofList ++ more) = t'.follow above' more := by
  induction h with
  | nil => rfl
  | cons step _ ih => exact (step.follow_eq _).trans ih

theorem exists_follows (leads : t.follow above (segments.map String.ofList) = some found) :
    ∃ above', Follows segments t above found above' := by
  induction segments generalizing t above with
  | nil =>
    rw [List.map_nil, follow, Option.some_inj] at leads
    exact ⟨above, leads ▸ .nil⟩
  | cons s segments ih =>
    obtain ⟨t₁, above₁, step⟩ := exists_goes leads
    obtain ⟨above', others⟩ := ih ((step.follow_eq _).symm.trans leads)
    exact ⟨above', .cons step others⟩

/-- An empty segment at the end leads nowhere else. -/
theorem Follows.of_concat_nil (h : Follows (segments ++ [[]]) t above t' above') :
    Follows segments t above t' above' := by
  induction segments generalizing t above with
  | nil =>
    obtain _ | ⟨step, others⟩ := h
    cases others
    cases step with
    | stay => exact .nil
    | leave up => cases up
    | enter name => cases name
  | cons s segments ih =>
    obtain _ | ⟨step, others⟩ := h
    exact .cons step (ih others)

end Steps

/-- Following the names of a place from the top leads to a tree with these directories above it. -/
inductive Trail (top : FileTree) : List String → FileTree → List FileTree → Prop
  | start : Trail top [] top []
  | enter {place entries above name t} (way : Trail top place (.directory entries) above)
      (listed : entries.lookup name = some t) :
    Trail top (place ++ [name]) t (.directory entries :: above)

namespace Trail

variable {top t t' : FileTree} {place : List String} {above above' : List FileTree}

theorem descend? (h : Trail top place t above) : top.descend? place = some t := by
  induction h with
  | start => rfl
  | enter _ listed ih => simp [descend?_append, ih, FileTree.descend?, listed]

theorem leave {outer : FileTree} (h : Trail top place t (outer :: above)) :
    Trail top place.dropLast outer above := by
  cases h with
  | enter way => rwa [List.dropLast_concat]

/-- The components of the segments lead on from the place as the segments lead on from the tree. -/
theorem follows {segments : List (List Char)} (h : Trail top place t above)
    (leads : Follows segments t above t' above') :
    Trail top ((segments.filterMap Path.componentOf?).foldl Path.stepTo place) t' above' := by
  induction leads generalizing place with
  | nil => exact h
  | cons step _ ih =>
    cases step with
    | stay idle =>
      rw [List.filterMap_cons_none idle]
      exact ih h
    | leave up =>
      rw [List.filterMap_cons_some up]
      exact ih h.leave
    | enter name listed =>
      rw [List.filterMap_cons_some name]
      exact ih (h.enter listed)

end Trail

/-- A relative path leads to what its segments lead to. -/
theorem at?_eq_some_iff {t found : FileTree} {path : String} : t.at? path = some found ↔
    Text.startsWith path "/" = false ∧
      t.follow [] ((Text.segments '/' path.toList).map String.ofList) = some found := by
  rw [at?]
  cases Text.startsWith path "/" <;> simp

/-- A slash or a dot at the beginning leads to the top. -/
theorem place_components (path : String) : Path.place (Path.components path) =
    ((Text.segments '/' path.toList).filterMap Path.componentOf?).foldl Path.stepTo [] := by
  rw [Path.place, Path.components, List.foldl_append]
  congr 1
  unfold Path.leadOf
  split <;> rfl

/-- A path that leads somewhere leads to what lies at its place. -/
theorem descend?_place {t found : FileTree} {path : String} (leads : t.at? path = some found) :
    t.descend? (Path.place (Path.components path)) = some found := by
  obtain ⟨above, way⟩ := exists_follows (at?_eq_some_iff.1 leads).2
  rw [place_components]
  exact (Trail.start.follows way).descend?

theorem Lawful.descend? {t found : FileTree} {place : List String} (lawful : t.Lawful)
    (leads : t.descend? place = some found) : found.Lawful := by
  induction place generalizing t with
  | nil =>
    rw [FileTree.descend?, Option.some_inj] at leads
    exact leads ▸ lawful
  | cons name place ih =>
    cases lawful with
    | file => cases leads
    | directory _ _ inner =>
      obtain ⟨t, listed, leads⟩ := Option.bind_eq_some_iff.1 leads
      exact ih (inner _ (mem_of_lookup listed)) leads

theorem Lawful.at? {t found : FileTree} {path : String} (lawful : t.Lawful)
    (leads : t.at? path = some found) : found.Lawful :=
  lawful.descend? (descend?_place leads)

/-- The path of an entry of a directory leads to the entry, unless the name means something else. -/
theorem at?_join {t : FileTree} {dir name : String} {entries : List (String × FileTree)}
    (leads : t.at? dir = some (.directory entries)) (nonempty : name.toList ≠ [])
    (single : '/' ∉ name.toList) (shown : Path.isHidden name = false) :
    t.at? (Path.join dir name) = entries.lookup name := by
  obtain ⟨relative, leads⟩ := at?_eq_some_iff.1 leads
  have dotless : ∀ rest, name.toList ≠ '.' :: rest := by
    intro rest dot
    simp [Path.isHidden, Text.startsWith, dot] at shown
  have named : Path.componentOf? name.toList = some (.name name) := by
    simp [Path.componentOf?, dotless, List.isEmpty_iff, nonempty]
  obtain ⟨above, way⟩ := exists_follows leads
  have enters : (directory entries).follow above [String.ofList name.toList] =
      entries.lookup name := by
    rw [follow_name named]
    cases entries.lookup name <;> simp [follow]
  rw [at?, Path.relative_join relative single, if_neg Bool.false_ne_true]
  rcases Path.segments_join dir single with ⟨front, dirSegments, segments⟩ | segments
  · rw [dirSegments] at way
    rw [segments, List.map_append, List.map_singleton, way.of_concat_nil.follow_eq, enters]
  · rw [segments, List.map_append, List.map_singleton, way.follow_eq, enters]

end FileTree

end ArchLint
