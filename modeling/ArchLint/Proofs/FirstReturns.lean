import ArchLint.Syntax.Construct

/-! # The return that a body is judged by

What a call of a function with a block gives is read off one of its returns. The search for it goes into
blocks and nowhere else, and it does not stop at a return without a value. So it may pass over the first
return of the source: one in a branch, a guarded block, a handler or a loop, or one that gives nothing.

* `ReturnSite` — a return with what stands around it.
* `FunctionBody.returnSites` — the returns of a body in source order, those of closures left aside.
* `FunctionBody.firstValue?` — what the first of them gives.
* `firstReturned?_eq` — what the search finds among the returns.
* `FunctionBody.returned?_eq_firstValue?_iff` — when that is what the first return gives.
-/

namespace ArchLint

/-! ## Returns -/

/-- A return statement. -/
structure ReturnSite where
  value : Option Expr
  /-- A branch, a guarded block, a handler or a loop stands around it. -/
  isEnclosed : Bool

namespace ReturnSite

def enclose (r : ReturnSite) : ReturnSite :=
  { r with isEnclosed := true }

/-- What a search that does not look into branches and the like finds at the return. -/
def found? (r : ReturnSite) : Option Expr :=
  if r.isEnclosed then none else r.value

end ReturnSite

mutual

/-- The returns at and below a statement in source order. Closures are not entered. -/
def Statement.returnSites : Statement → List ReturnSite
  | .returns value _ => [⟨value, false⟩]
  | .block statements _ => statementReturnSites statements
  | .branch _ thenBranch none _ => thenBranch.returnSites.map .enclose
  | .branch _ thenBranch (some elseBranch) _ =>
    (thenBranch.returnSites ++ elseBranch.returnSites).map .enclose
  | .attempt body catches none _ =>
    (statementReturnSites body ++ catchReturnSites catches).map .enclose
  | .attempt body catches (some cleanup) _ =>
    (statementReturnSites body ++ catchReturnSites catches ++ statementReturnSites cleanup).map .enclose
  | .loop _ body _ => body.returnSites.map .enclose
  | .expression _ => []
  | .localVariable _ _ _ _ => []
  | .other _ => []

def statementReturnSites : List Statement → List ReturnSite
  | [] => []
  | s :: rest => s.returnSites ++ statementReturnSites rest

def catchReturnSites : List CatchClause → List ReturnSite
  | [] => []
  | ⟨_, body⟩ :: rest => statementReturnSites body ++ catchReturnSites rest

end

namespace FunctionBody

/-- The returns of a body in source order. -/
def returnSites : FunctionBody → List ReturnSite
  | ⟨_, .block statements⟩ => statementReturnSites statements
  | ⟨_, .expression _⟩ => []
  | ⟨_, .empty⟩ => []

/-- What the first return of a block gives, or the expression of an arrow body. -/
def firstValue? (b : FunctionBody) : Option Expr :=
  match b.content with
  | .empty => none
  | .expression e => some e
  | .block _ => b.returnSites.head?.bind ReturnSite.value

end FunctionBody

/-! ## The search -/

theorem findSome?_map_enclose (sites : List ReturnSite) :
    (sites.map ReturnSite.enclose).findSome? ReturnSite.found? = none := by
  rw [List.findSome?_map, List.findSome?_eq_none_iff]
  intro r _
  rfl

mutual

theorem Statement.returned?_eq (s : Statement) :
    s.returned? = s.returnSites.findSome? ReturnSite.found? := by
  cases s with
  | returns value =>
    rw [Statement.returned?, Statement.returnSites]
    cases value <;> rfl
  | block statements =>
    rw [Statement.returned?, Statement.returnSites]
    exact firstReturned?_eq statements
  | branch _ _ elseBranch =>
    cases elseBranch <;>
      rw [Statement.returned?, Statement.returnSites, findSome?_map_enclose]
  | attempt _ _ cleanup =>
    cases cleanup <;>
      rw [Statement.returned?, Statement.returnSites, findSome?_map_enclose]
  | loop => rw [Statement.returned?, Statement.returnSites, findSome?_map_enclose]
  | expression | localVariable | other => rfl
termination_by sizeOf s

/-- The search gives the first value among the returns around which no branch, guarded block, handler or
loop stands. -/
theorem firstReturned?_eq (ss : List Statement) :
    firstReturned? ss = (statementReturnSites ss).findSome? ReturnSite.found? := by
  cases ss with
  | nil => rfl
  | cons s rest =>
    rw [firstReturned?, statementReturnSites, List.findSome?_append, s.returned?_eq,
      firstReturned?_eq rest]
    cases s.returnSites.findSome? ReturnSite.found? <;> rfl
termination_by sizeOf ss

end

namespace FunctionBody

theorem returned?_eq (b : FunctionBody) : b.returned? =
    match b.content with
    | .empty => none
    | .expression e => some e
    | .block _ => b.returnSites.findSome? ReturnSite.found? := by
  obtain ⟨modifier, content⟩ := b
  cases content with
  | empty | expression => rfl
  | block statements => exact firstReturned?_eq statements

end FunctionBody

namespace ReturnSite

/-- The search over some returns gives what the first of them gives in three cases. -/
theorem findSome?_found?_eq_iff (first : ReturnSite) (rest : List ReturnSite) :
    (first :: rest).findSome? found? = first.value ↔
      (first.isEnclosed = false ∧ first.value.isSome) ∨
      (first.value = none ∧ ∀ r ∈ first :: rest, r.isEnclosed = true ∨ r.value = none) ∨
      (first.isEnclosed = true ∧ first.value.isSome ∧ rest.findSome? found? = first.value) := by
  obtain ⟨value, isEnclosed⟩ := first
  cases value with
  | none =>
    -- Nothing is found at the first return, so it is the rest that must give nothing.
    have nothing : ∀ r : ReturnSite, r.found? = none ↔ r.isEnclosed = true ∨ r.value = none := by
      intro r
      cases enclosed : r.isEnclosed <;> simp [found?, enclosed]
    simp [List.findSome?_eq_none_iff, nothing]
  | some e => cases isEnclosed <;> simp [found?]

end ReturnSite

/-- A body with an arrow gives its expression and one that is absent gives nothing. With a block, a body
gives the first value among its returns outside of branches, guarded blocks, handlers and loops. That is
what the first of all its returns gives if there is none, if the first stands outside and has a value, if
the first has no value and none outside has one, or if the first value outside happens to be the value of
a first return that is enclosed; and in no other case. -/
theorem FunctionBody.returned?_eq_firstValue?_iff (b : FunctionBody) :
    (b.returned? = match b.content with
      | .empty => none
      | .expression e => some e
      | .block _ => b.returnSites.findSome? ReturnSite.found?) ∧
    (b.returned? = b.firstValue? ↔ ∀ first rest, b.returnSites = first :: rest →
      (first.isEnclosed = false ∧ first.value.isSome) ∨
      (first.value = none ∧ ∀ r ∈ first :: rest, r.isEnclosed = true ∨ r.value = none) ∨
      (first.isEnclosed = true ∧ first.value.isSome ∧
        rest.findSome? ReturnSite.found? = first.value)) := by
  refine ⟨b.returned?_eq, ?_⟩
  obtain ⟨modifier, content⟩ := b
  cases content with
  | empty => simp [returned?, firstValue?, returnSites]
  | expression e => simp [returned?, firstValue?, returnSites]
  | block statements =>
    rw [returned?_eq, firstValue?]
    simp only
    cases sites : FunctionBody.returnSites ⟨modifier, .block statements⟩ with
    | nil => simp
    | cons first rest =>
      simp only [List.head?_cons, Option.bind_some, ReturnSite.findSome?_found?_eq_iff, List.cons.injEq]
      constructor
      · rintro agree _ _ ⟨rfl, rfl⟩
        exact agree
      · exact fun agree => agree first rest ⟨rfl, rfl⟩

/-- A body that returns one thing in a branch and another one behind it. -/
def branchingBody : FunctionBody :=
  .block [.branch (.ident "ready") (.returning (.call "AuthBloc" [])) none {},
    .returning (.call "Fallback" [])]

/-- A body that returns nothing, with a return behind it that is never reached. -/
def abandonedBody : FunctionBody :=
  .block [.returns none {}, .returning (.call "AuthBloc" [])]

theorem first_return_passed_over :
    branchingBody.returned? ≠ branchingBody.firstValue? ∧
      abandonedBody.returned? ≠ abandonedBody.firstValue? := by
  -- What is called at the top tells the expressions apart.
  have calls : ∀ {a b : Option Expr}, a.bind Expr.invokedName? ≠ b.bind Expr.invokedName? → a ≠ b :=
    fun other same => other (congrArg (·.bind Expr.invokedName?) same)
  exact ⟨calls (by decide), calls (by decide)⟩

end ArchLint
