import ArchLint.Proofs.RenderedNames
import ArchLint.Rule.Catalog

/-! # Texts that messages quote

The words of a message are the rule's own, and all of them are printable ASCII. Between them a message
quotes texts of the file: names, the URIs of imports, and types and expressions as they are rendered. It
quotes them as they are, so whatever else stands in a message comes from one of them, or from an ending of
names that the project has set.

* `Text.DrawnFrom` — no character of a text is new, apart from printable ASCII.
* `TypeExpr.drawnFrom_render`, `Expr.drawnFrom_render` — rendered code.
* `CompilationUnit.quotable`, `Naming.quotable` — the texts that a message may quote.
* `Rule.drawn_of_mem_catalog` — the messages of the built-in rules.
-/

namespace ArchLint

namespace Text

/-- A printable character of ASCII. -/
def isPrintable (c : Char) : Bool :=
  0x20 ≤ c.toNat && c.toNat ≤ 0x7E

/-- Every character of the text is printable ASCII or stands in one of the parts. -/
def DrawnFrom (parts : List String) (s : String) : Prop :=
  ∀ c ∈ s.toList, isPrintable c = true ∨ ∃ part ∈ parts, c ∈ part.toList

variable {parts : List String} {s t : String}

@[simp] theorem drawnFrom_of_printable (h : s.toList.all isPrintable = true) : DrawnFrom parts s :=
  fun c mem => .inl (List.all_eq_true.1 h c mem)

theorem drawnFrom_of_mem (h : s ∈ parts) : DrawnFrom parts s :=
  fun _ mem => .inr ⟨s, h, mem⟩

@[simp] theorem drawnFrom_append_iff : DrawnFrom parts (s ++ t) ↔ DrawnFrom parts s ∧ DrawnFrom parts t := by
  simp only [DrawnFrom, String.toList_append, List.mem_append, or_imp, forall_and]

theorem drawnFrom_joined {sep : String} (parting : DrawnFrom parts sep) {texts : List String}
    (each : ∀ s ∈ texts, DrawnFrom parts s) : DrawnFrom parts (joined sep texts) := by
  induction texts with
  | nil => exact drawnFrom_of_printable rfl
  | cons s texts ih =>
    obtain ⟨first, rest⟩ := List.forall_mem_cons.1 each
    cases texts with
    | nil => exact first
    | cons t texts =>
      rw [joined, drawnFrom_append_iff, drawnFrom_append_iff]
      exact ⟨⟨first, parting⟩, ih rest⟩

theorem DrawnFrom.afterLast (h : DrawnFrom parts s) (sep : Char) : DrawnFrom parts (afterLast sep s) := by
  intro c mem
  rw [Text.afterLast, String.toList_ofList, List.mem_reverse] at mem
  exact h c (List.mem_reverse.1 (List.takeWhile_subset _ mem))

end Text

open Text (DrawnFrom drawnFrom_append_iff drawnFrom_of_printable drawnFrom_of_mem drawnFrom_joined)

variable {parts : List String}

/-! ## Rendered code -/

/-- Two texts with a mark between them. -/
theorem drawnFrom_between {s t mark : String} (front : DrawnFrom parts s)
    (printable : mark.toList.all Text.isPrintable = true) (back : DrawnFrom parts t) :
    DrawnFrom parts (s ++ mark ++ t) :=
  drawnFrom_append_iff.2 ⟨drawnFrom_append_iff.2 ⟨front, drawnFrom_of_printable printable⟩, back⟩

/-- Several texts within brackets. -/
theorem drawnFrom_enclosed {opening closing : String} (front : DrawnFrom parts opening)
    {texts : List String} (each : ∀ s ∈ texts, DrawnFrom parts s)
    (printable : closing.toList.all Text.isPrintable = true) :
    DrawnFrom parts (opening ++ Text.joined ", " texts ++ closing) :=
  drawnFrom_append_iff.2 ⟨drawnFrom_append_iff.2
    ⟨front, drawnFrom_joined (drawnFrom_of_printable (by decide)) each⟩, drawnFrom_of_printable printable⟩

theorem drawnFrom_renderTypeArguments {ts : List TypeExpr}
    (each : ∀ s ∈ renderTypes ts, DrawnFrom parts s) : DrawnFrom parts (renderTypeArguments ts) := by
  cases ts with
  | nil => exact drawnFrom_of_printable rfl
  | cons t ts => exact drawnFrom_enclosed (drawnFrom_of_printable (by decide)) each (by decide)

mutual

theorem TypeExpr.drawnFrom_render (t : TypeExpr) (sub : t.names ⊆ parts) : DrawnFrom parts t.render := by
  obtain ⟨name, arguments, nullable, span⟩ := t
  rw [TypeExpr.names, List.cons_subset] at sub
  have ending : DrawnFrom parts (if nullable then "?" else "") := by
    cases nullable <;> exact drawnFrom_of_printable (by decide)
  rw [TypeExpr.render_eq, drawnFrom_append_iff, drawnFrom_append_iff]
  exact ⟨⟨drawnFrom_of_mem sub.1,
    drawnFrom_renderTypeArguments (drawnFrom_renderTypes arguments sub.2)⟩, ending⟩

theorem drawnFrom_renderTypes (ts : List TypeExpr) (sub : typeNames ts ⊆ parts) :
    ∀ s ∈ renderTypes ts, DrawnFrom parts s := by
  cases ts with
  | nil => simp [renderTypes]
  | cons t ts =>
    rw [typeNames, List.append_subset] at sub
    rw [renderTypes, List.forall_mem_cons]
    exact ⟨t.drawnFrom_render sub.1, drawnFrom_renderTypes ts sub.2⟩

end

theorem drawnFrom_renderParameters {parameters : List Parameter}
    (sub : parameters.map Parameter.name ⊆ parts) : DrawnFrom parts (renderParameters parameters) :=
  drawnFrom_enclosed (drawnFrom_of_printable (by decide)) (fun _ mem => drawnFrom_of_mem (sub mem))
    (by decide)

/-- What is called, with its arguments in parentheses. -/
theorem drawnFrom_call {called : String} (front : DrawnFrom parts called) {texts : List String}
    (each : ∀ s ∈ texts, DrawnFrom parts s) :
    DrawnFrom parts (called ++ "(" ++ Text.joined ", " texts ++ ")") :=
  drawnFrom_enclosed (drawnFrom_append_iff.2 ⟨front, drawnFrom_of_printable (by decide)⟩) each (by decide)

mutual

theorem Expr.drawnFrom_render (e : Expr) (sub : e.texts ⊆ parts) : DrawnFrom parts e.render := by
  cases e with
  | identifier | literal | this | other =>
    rw [Expr.texts, List.cons_subset] at sub
    exact drawnFrom_of_mem sub.1
  | propertyAccess target property =>
    rw [Expr.texts, List.append_subset, List.cons_subset] at sub
    exact drawnFrom_between (target.drawnFrom_render sub.1) (by decide) (drawnFrom_of_mem sub.2.1)
  | methodInvocation target method types arguments =>
    cases target with
    | none =>
      rw [Expr.texts, List.cons_subset, List.append_subset] at sub
      obtain ⟨called, typed, given⟩ := sub
      refine drawnFrom_call (drawnFrom_append_iff.2 ⟨drawnFrom_of_mem called, ?_⟩)
        (drawnFrom_renderArguments arguments given)
      exact drawnFrom_renderTypeArguments (drawnFrom_renderTypes types typed)
    | some target =>
      rw [Expr.texts, List.append_subset, List.cons_subset, List.append_subset] at sub
      obtain ⟨receiver, called, typed, given⟩ := sub
      refine drawnFrom_call (drawnFrom_append_iff.2 ⟨?_, ?_⟩)
        (drawnFrom_renderArguments arguments given)
      · exact drawnFrom_between (target.drawnFrom_render receiver) (by decide) (drawnFrom_of_mem called)
      · exact drawnFrom_renderTypeArguments (drawnFrom_renderTypes types typed)
  | instanceCreation type constructorName isConst arguments =>
    simp only [Expr.texts, List.append_subset] at sub
    obtain ⟨⟨⟨-, typed⟩, named⟩, given⟩ := sub
    have word : DrawnFrom parts (if isConst then "const " else "") := by
      cases isConst <;> exact drawnFrom_of_printable (by decide)
    refine drawnFrom_call (drawnFrom_append_iff.2
      ⟨drawnFrom_append_iff.2 ⟨word, type.drawnFrom_render typed⟩, ?_⟩)
      (drawnFrom_renderArguments arguments given)
    cases constructorName with
    | none => exact drawnFrom_of_printable (by decide)
    | some name =>
      exact drawnFrom_append_iff.2 ⟨drawnFrom_of_printable (by decide),
        drawnFrom_of_mem (List.cons_subset.1 named).1⟩
  | closure parameters body =>
    obtain ⟨modifier, content⟩ := body
    cases content with
    | empty => exact drawnFrom_renderParameters sub
    | expression e =>
      rw [Expr.texts, List.append_subset] at sub
      exact drawnFrom_between (drawnFrom_renderParameters sub.1) (by decide) (e.drawnFrom_render sub.2)
    | block =>
      exact drawnFrom_append_iff.2 ⟨drawnFrom_renderParameters sub, drawnFrom_of_printable (by decide)⟩
  | await operand =>
    rw [Expr.texts, List.cons_subset] at sub
    exact drawnFrom_append_iff.2 ⟨drawnFrom_of_printable (by decide), operand.drawnFrom_render sub.2⟩
  | binary left operator right =>
    rw [Expr.texts, List.append_subset, List.cons_subset] at sub
    exact drawnFrom_between (drawnFrom_between (left.drawnFrom_render sub.1) (by decide)
      (drawnFrom_of_mem sub.2.1)) (by decide) (right.drawnFrom_render sub.2.2)
  | assignment target operator value =>
    rw [Expr.texts, List.append_subset, List.cons_subset] at sub
    exact drawnFrom_between (drawnFrom_between (target.drawnFrom_render sub.1) (by decide)
      (drawnFrom_of_mem sub.2.1)) (by decide) (value.drawnFrom_render sub.2.2)
  | conditional condition thenExpr elseExpr =>
    rw [Expr.texts, List.append_subset, List.append_subset] at sub
    exact drawnFrom_between (drawnFrom_between (condition.drawnFrom_render sub.1.1) (by decide)
      (thenExpr.drawnFrom_render sub.1.2)) (by decide) (elseExpr.drawnFrom_render sub.2)
  | cascade target sections =>
    rw [Expr.texts, List.append_subset] at sub
    exact drawnFrom_append_iff.2 ⟨target.drawnFrom_render sub.1, drawnFrom_renderSections sections sub.2⟩
  | list elements =>
    exact drawnFrom_enclosed (drawnFrom_of_printable (by decide)) (drawnFrom_renderExprs elements sub)
      (by decide)

theorem drawnFrom_renderExprs (es : List Expr) (sub : exprTexts es ⊆ parts) :
    ∀ s ∈ renderExprs es, DrawnFrom parts s := by
  cases es with
  | nil => simp [renderExprs]
  | cons e es =>
    rw [exprTexts, List.append_subset] at sub
    rw [renderExprs, List.forall_mem_cons]
    exact ⟨e.drawnFrom_render sub.1, drawnFrom_renderExprs es sub.2⟩

theorem drawnFrom_renderSections (es : List Expr) (sub : exprTexts es ⊆ parts) :
    DrawnFrom parts (renderSections es) := by
  cases es with
  | nil => exact drawnFrom_of_printable (by decide)
  | cons e es =>
    rw [exprTexts, List.append_subset] at sub
    simp only [renderSections, drawnFrom_append_iff]
    exact ⟨⟨drawnFrom_of_printable (by decide), e.drawnFrom_render sub.1⟩,
      drawnFrom_renderSections es sub.2⟩

theorem drawnFrom_renderArguments (as : List Argument) (sub : argumentTexts as ⊆ parts) :
    ∀ s ∈ renderArguments as, DrawnFrom parts s := by
  cases as with
  | nil => simp [renderArguments]
  | cons a as =>
    obtain ⟨name, value⟩ := a
    cases name with
    | none =>
      rw [argumentTexts, List.append_subset] at sub
      rw [renderArguments, List.forall_mem_cons]
      exact ⟨value.drawnFrom_render sub.1, drawnFrom_renderArguments as sub.2⟩
    | some name =>
      rw [argumentTexts, List.append_subset, List.cons_subset] at sub
      rw [renderArguments, List.forall_mem_cons]
      exact ⟨drawnFrom_between (drawnFrom_of_mem sub.1.1) (by decide) (value.drawnFrom_render sub.1.2),
        drawnFrom_renderArguments as sub.2⟩

end

theorem render_mem_renderTypes {t : TypeExpr} {ts : List TypeExpr} (h : t ∈ ts) :
    t.render ∈ renderTypes ts := by
  induction ts with
  | nil => cases h
  | cons t' ts ih =>
    rw [renderTypes]
    rcases List.mem_cons.1 h with rfl | later
    · exact .head _
    · exact .tail _ (ih later)

/-! ## What a file has to quote -/

/-- The texts that messages quote of a field: the names of its variables and those in its type. -/
def FieldDecl.quotable (f : FieldDecl) : List String :=
  f.declarators.map (·.name) ++ (f.type.map TypeExpr.names).getD []

/-- The texts that messages quote of a method: its name and those in its return type. -/
def MethodDecl.quotable (m : MethodDecl) : List String :=
  m.name :: (m.returnType.map TypeExpr.names).getD []

/-- The texts that messages quote of a member. -/
def ClassMember.quotable : ClassMember → List String
  | .field f => f.quotable
  | .constructor k => k.name.toList
  | .method m => m.quotable

/-- The texts that messages quote of a class: its name, those in the type that it extends, and those of
its members. -/
def ClassDecl.quotable (c : ClassDecl) : List String :=
  c.name :: ((c.superclass.map TypeExpr.names).getD [] ++ c.members.flatMap ClassMember.quotable)

/-- The texts that messages quote of a call: the names in its type arguments, and the texts of what it
registers. -/
def Expr.quotable : Expr → List String
  | .methodInvocation _ _ types arguments _ =>
    typeNames types ++ ((producedExpr? arguments).map Expr.texts).getD []
  | _ => []

/-- The texts that messages quote of a file. -/
def CompilationUnit.quotable (u : CompilationUnit) : List String :=
  u.imports.map (·.uri) ++ u.classes.flatMap ClassDecl.quotable ++ u.exprs.flatMap Expr.quotable

/-- The endings of names that messages quote. -/
def Naming.quotable (n : Naming) : List String :=
  [n.modelSuffix, n.blocSuffix]

namespace ClassDecl

variable {c : ClassDecl} (sub : c.quotable ⊆ parts)

include sub

theorem name_mem_of_quotable : c.name ∈ parts :=
  (List.cons_subset.1 sub).1

theorem superclass_names_subset {base : TypeExpr} (extended : c.superclass = some base) :
    base.names ⊆ parts := by
  have names := (List.append_subset.1 (List.cons_subset.1 sub).2).1
  rwa [extended] at names

theorem member_quotable_subset {m : ClassMember} (hm : m ∈ c.members) : m.quotable ⊆ parts :=
  fun _ hs => sub (List.mem_cons_of_mem _ (List.mem_append_right _ (List.mem_flatMap_of_mem hm hs)))

theorem field_quotable_subset {f : FieldDecl} (hf : f ∈ c.fields) : f.quotable ⊆ parts :=
  member_quotable_subset sub (mem_members_of_mem_fields hf)

theorem constructor_name_subset {k : ConstructorDecl} (hk : k ∈ c.constructors) :
    k.name.toList ⊆ parts :=
  member_quotable_subset sub (mem_members_of_mem_constructors hk)

theorem method_quotable_subset {m : MethodDecl} (hm : m ∈ c.methods) : m.quotable ⊆ parts :=
  member_quotable_subset sub (mem_members_of_mem_methods hm)

theorem method_name_mem {m : MethodDecl} (hm : m ∈ c.methods) : m.name ∈ parts :=
  (List.cons_subset.1 (method_quotable_subset sub hm)).1

end ClassDecl

namespace CompilationUnit

variable {u : CompilationUnit} (sub : u.quotable ⊆ parts)

include sub

theorem uri_mem_of_quotable {r : Reference} (hr : r ∈ u.imports) : r.uri ∈ parts :=
  sub (List.mem_append_left _ (List.mem_append_left _ (List.mem_map_of_mem hr)))

theorem class_quotable_subset {c : ClassDecl} (hc : c ∈ u.classes) : c.quotable ⊆ parts := fun _ hs =>
  sub (List.mem_append_left _ (List.mem_append_right _ (List.mem_flatMap_of_mem hc hs)))

theorem expr_quotable_subset {e : Expr} (he : e ∈ u.exprs) : e.quotable ⊆ parts := fun _ hs =>
  sub (List.mem_append_right _ (List.mem_flatMap_of_mem he hs))

end CompilationUnit

/-! ## Single findings -/

section Classes

variable {c : ClassDecl} (sub : c.quotable ⊆ parts) {x : Finding}

include sub

theorem drawnFrom_entityMustNot {what : String} (h : DrawnFrom parts what) :
    DrawnFrom parts (entityMustNot c what) := by
  have owner := drawnFrom_of_mem (c.name_mem_of_quotable sub)
  simp (disch := decide) [entityMustNot, owner, h]

theorem drawnFrom_of_mem_faultyMethods {fault : Fault} {what : MethodDecl → String}
    (h : ∀ m ∈ c.methods, DrawnFrom parts (what m))
    (hx : x ∈ (c.faultyMethods fault).map fun m => ⟨m.nameSpan, entityMustNot c (what m)⟩) :
    DrawnFrom parts x.message := by
  obtain ⟨m, hm, rfl⟩ := List.mem_map.1 hx
  exact drawnFrom_entityMustNot sub (h m (List.mem_filter.1 hm).1)

theorem drawnFrom_of_modelReturned? {suffix : String} {m : MethodDecl} (hm : m ∈ c.methods)
    (h : Rule.modelReturned? suffix c m = some x) : DrawnFrom parts x.message := by
  rw [Rule.modelReturned?] at h
  split at h
  next => cases h
  next type returned =>
    obtain ⟨-, ⟨⟩⟩ := Option.ite_none_right_eq_some.1 h
    have names := (List.cons_subset.1 (c.method_quotable_subset sub hm)).2
    rw [returned] at names
    have owner := drawnFrom_of_mem (c.name_mem_of_quotable sub)
    have method := drawnFrom_of_mem (c.method_name_mem sub hm)
    have rendered := type.drawnFrom_render names
    simp (disch := decide) [owner, method, rendered]

theorem drawnFrom_of_dependencyFinding? {f : FieldDecl} (hf : f ∈ c.fields)
    (h : dependencyFinding? c f = some x) : DrawnFrom parts x.message := by
  rw [dependencyFinding?] at h
  split at h
  next => cases h
  next type annotated =>
    obtain ⟨-, ⟨⟩⟩ := Option.ite_none_right_eq_some.1 h
    have names := (List.append_subset.1 (c.field_quotable_subset sub hf)).2
    rw [annotated] at names
    have owner := drawnFrom_of_mem (c.name_mem_of_quotable sub)
    have rendered := type.drawnFrom_render names
    simp (disch := decide) [owner, rendered]

theorem drawnFrom_of_asyncFinding? {m : MethodDecl} (hm : m ∈ c.methods)
    (h : asyncFinding? c m = some x) : DrawnFrom parts x.message := by
  obtain ⟨-, ⟨⟩⟩ := Option.ite_none_right_eq_some.1 h
  have owner := drawnFrom_of_mem (c.name_mem_of_quotable sub)
  have method := drawnFrom_of_mem (c.method_name_mem sub hm)
  simp (disch := decide) [owner, method]

theorem drawnFrom_of_argumentFinding? {base : TypeExpr} (extended : c.superclass = some base)
    {part : BlocPart} (h : argumentFinding? c base part = some x) : DrawnFrom parts x.message := by
  rw [argumentFinding?] at h
  split at h
  next => cases h
  next argument given =>
    obtain ⟨-, ⟨⟩⟩ := Option.ite_none_left_eq_some.1 h
    have names := c.superclass_names_subset sub extended
    rw [base.names_eq, List.cons_subset] at names
    have rendered := drawnFrom_renderTypes base.arguments names.2 argument.render
      (render_mem_renderTypes (List.mem_of_getElem? given))
    have owner := drawnFrom_of_mem (c.name_mem_of_quotable sub)
    cases part <;> simp (disch := decide) [owner, rendered]

theorem drawnFrom_of_partFinding? {part : BlocPart} (h : partFinding? c part = some x) :
    DrawnFrom parts x.message := by
  obtain ⟨-, unrelated⟩ := Option.ite_none_left_eq_some.1 h
  obtain ⟨-, ⟨⟩⟩ := Option.ite_none_left_eq_some.1 unrelated
  have owner := drawnFrom_of_mem (c.name_mem_of_quotable sub)
  cases part <;> simp (disch := decide) [owner]

theorem drawnFrom_of_mem_blocFindings {suffix : String} (configured : suffix ∈ parts) {base : TypeExpr}
    (extended : c.superclass = some base) (h : x ∈ blocFindings suffix c base) :
    DrawnFrom parts x.message := by
  rcases List.mem_append.1 h with name | argument
  · split at name
    next => cases name
    next =>
      rw [List.mem_singleton.1 name]
      have owner := drawnFrom_of_mem (c.name_mem_of_quotable sub)
      have ending := drawnFrom_of_mem configured
      simp (disch := decide) [owner, ending]
  · obtain ⟨part, -, found⟩ := List.mem_filterMap.1 argument
    exact drawnFrom_of_argumentFinding? sub extended found

theorem drawnFrom_of_mem_blocFileFindings {ctx : FileContext} (configured : ctx.naming.blocSuffix ∈ parts)
    (h : x ∈ blocFileFindings ctx c) : DrawnFrom parts x.message := by
  rw [blocFileFindings] at h
  split at h
  next base based =>
    have extended : c.superclass = some base := (Option.filter_eq_some_iff.1 based).1
    exact drawnFrom_of_mem_blocFindings sub configured extended h
  next =>
    split at h
    next => exact drawnFrom_of_partFinding? sub (Option.mem_toList.1 h)
    next => cases h

end Classes

section Registrations

variable {suffixes : List String} {text : String}

theorem eq_of_ifMentions {found : String} (h : ifMentions suffixes text = some found) : text = found := by
  obtain ⟨-, ⟨⟩⟩ := Option.ite_none_right_eq_some.1 h
  rfl

theorem Expr.drawnFrom_of_receiverPath? {e : Expr} (sub : e.texts ⊆ parts)
    (h : e.receiverPath? = some text) : DrawnFrom parts text := by
  cases e with
  | methodInvocation target =>
    cases target with
    | none => cases h
    | some target =>
      obtain ⟨-, ⟨⟩⟩ := Option.ite_none_right_eq_some.1 h
      rw [Expr.texts, List.append_subset] at sub
      exact target.drawnFrom_render sub.1
  | _ => cases h

theorem Expr.drawnFrom_of_invokedName? {e : Expr} (sub : e.texts ⊆ parts)
    (h : e.invokedName? = some text) : DrawnFrom parts text := by
  cases e with
  | methodInvocation target method =>
    cases h
    cases target with
    | none => exact drawnFrom_of_mem (List.cons_subset.1 sub).1
    | some target =>
      rw [Expr.texts, List.append_subset, List.cons_subset] at sub
      exact drawnFrom_of_mem sub.2.1
  | instanceCreation type =>
    cases h
    simp only [Expr.texts, type.names_eq, List.append_subset, List.cons_subset] at sub
    exact (drawnFrom_of_mem sub.1.1.2.1).afterLast '.'
  | _ => cases h

theorem drawnFrom_of_stateUnitNamed? {e : Expr} (sub : e.texts ⊆ parts)
    (h : stateUnitNamed? suffixes e = some text) : DrawnFrom parts text := by
  rw [stateUnitNamed?] at h
  split at h
  next =>
    cases eq_of_ifMentions h
    exact e.drawnFrom_render sub
  next name called =>
    split at h
    next found named =>
      cases h
      cases eq_of_ifMentions named
      exact e.drawnFrom_of_invokedName? sub called
    next =>
      obtain ⟨path, received, mentioned⟩ := Option.bind_eq_some_iff.1 h
      cases eq_of_ifMentions mentioned
      exact e.drawnFrom_of_receiverPath? sub received

theorem drawnFrom_of_discouraged? {e : Expr} (sub : e.quotable ⊆ parts) {x : Finding}
    (h : discouraged? suffixes e = some x) : DrawnFrom parts x.message := by
  cases e with
  | methodInvocation target method types arguments span =>
    obtain ⟨discouraged, registered⟩ := Option.ite_none_right_eq_some.1 h
    obtain ⟨unit, named, rfl⟩ := Option.map_eq_some_iff.1 registered
    have printable : ∀ m ∈ discouragedRegistrations, m.toList.all Text.isPrintable = true := by decide
    have registration : DrawnFrom parts method :=
      drawnFrom_of_printable (printable method (List.contains_iff_mem.1 discouraged))
    rw [Expr.quotable, List.append_subset] at sub
    have quoted : DrawnFrom parts unit := by
      rw [registeredUnit?] at named
      split at named
      next type found =>
        cases named
        exact drawnFrom_renderTypes types sub.1 _ (List.mem_of_find?_eq_some found)
      next =>
        obtain ⟨e, produced, about⟩ := Option.bind_eq_some_iff.1 named
        rw [produced] at sub
        exact drawnFrom_of_stateUnitNamed? sub.2 about
    simp (disch := decide) [quoted, registration]
  | _ => cases h

end Registrations

/-! ## Rules -/

/-- Whatever its messages hold besides printable ASCII stands in a text of the file that they may quote or
in a configured ending. -/
def Rule.Drawn (r : Rule) : Prop :=
  ∀ ctx u found, r.findings ctx u = some found →
    ∀ x ∈ found, DrawnFrom (ctx.naming.quotable ++ u.quotable) x.message

theorem CompilationUnit.drawnFrom_of_mem_flatMap {u : CompilationUnit} (sub : u.quotable ⊆ parts)
    {p : ClassDecl → Bool} {report : ClassDecl → List Finding} {x : Finding}
    (drawn : ∀ c, c.quotable ⊆ parts → ∀ x ∈ report c, DrawnFrom parts x.message)
    (hx : x ∈ (u.classes.filter p).flatMap report) : DrawnFrom parts x.message := by
  obtain ⟨c, hc, reported⟩ := List.mem_flatMap.1 hx
  exact drawn c (u.class_quotable_subset sub (List.mem_filter.1 hc).1) x reported

theorem CompilationUnit.drawnFrom_of_mem_map {u : CompilationUnit} (sub : u.quotable ⊆ parts)
    {p : ClassDecl → Bool} {message : ClassDecl → String} {x : Finding}
    (drawn : ∀ c, DrawnFrom parts c.name → DrawnFrom parts (message c))
    (hx : x ∈ (u.classes.filter p).map fun c => ⟨c.nameSpan, message c⟩) :
    DrawnFrom parts x.message := by
  obtain ⟨c, hc, rfl⟩ := List.mem_map.1 hx
  have quotable := u.class_quotable_subset sub (List.mem_filter.1 hc).1
  exact drawn c (drawnFrom_of_mem (c.name_mem_of_quotable quotable))


/-- The words that a boundary brings into its messages are printable. -/
def ImportBoundary.Printable (b : ImportBoundary) : Prop :=
  ∀ word ∈ b.target :: (b.packages ++ b.fragments), word.toList.all Text.isPrintable = true

instance (b : ImportBoundary) : Decidable b.Printable :=
  inferInstanceAs (Decidable (∀ word ∈ b.target :: (b.packages ++ b.fragments), _ = true))

theorem ImportBoundary.drawnFrom_of_violation? {b : ImportBoundary} (printable : b.Printable)
    {uri reason : String} (h : b.violation? uri = some reason) : DrawnFrom parts reason := by
  rw [violation?] at h
  split at h
  next package found =>
    cases h
    have word : DrawnFrom parts package := drawnFrom_of_printable (printable package
      (List.mem_cons_of_mem _ (List.mem_append_left _ (List.mem_of_find?_eq_some found))))
    simp (disch := decide) [word]
  next =>
    split at h
    next => cases h
    next =>
      obtain ⟨fragment, found, rfl⟩ := Option.map_eq_some_iff.1 h
      have word : DrawnFrom parts fragment := drawnFrom_of_printable (printable fragment
        (List.mem_cons_of_mem _ (List.mem_append_right _ (List.mem_of_find?_eq_some found))))
      simp (disch := decide) [word]

theorem ImportBoundary.drawn_rule {b : ImportBoundary} (printable : b.Printable) : b.rule.Drawn := by
  rintro ctx u _ ⟨⟩ x hx
  split at hx
  next =>
    obtain ⟨r, hr, crossed⟩ := List.mem_filterMap.1 hx
    obtain ⟨reason, violated, rfl⟩ := Option.map_eq_some_iff.1 crossed
    have uri := drawnFrom_of_mem (u.uri_mem_of_quotable (List.subset_append_right ctx.naming.quotable _) hr)
    have why : DrawnFrom (ctx.naming.quotable ++ u.quotable) reason :=
      b.drawnFrom_of_violation? printable violated
    have target : DrawnFrom (ctx.naming.quotable ++ u.quotable) b.target :=
      drawnFrom_of_printable (printable b.target (.head _))
    cases b.source <;> simp (disch := decide) [Layer.label, uri, why, target]
  next => cases hx

namespace Rule

theorem drawn_ofEntities {name code description : String} {severity : Severity} {correction : String}
    {report : ClassDecl → List Finding}
    (drawn : ∀ {parts c}, c.quotable ⊆ parts → ∀ x ∈ report c, DrawnFrom parts x.message) :
    (ofEntities name code description severity correction report).Drawn := by
  rintro ctx u _ ⟨⟩ x hx
  exact u.drawnFrom_of_mem_flatMap (List.subset_append_right _ _) (fun _ => drawn) hx

theorem drawn_entityNoMethods : entityNoMethods.Drawn := by
  refine drawn_ofEntities fun {parts c} sub x => drawnFrom_of_mem_faultyMethods sub fun m hm => ?_
  have method := drawnFrom_of_mem (c.method_name_mem sub hm)
  have noun : DrawnFrom parts m.noun := by
    rw [MethodDecl.noun]
    split <;> exact drawnFrom_of_printable (by decide)
  simp (disch := decide) [method, noun]

theorem drawn_entityNoCopyWith : entityNoCopyWith.Drawn :=
  drawn_ofEntities fun sub _ => drawnFrom_of_mem_faultyMethods sub fun _ _ =>
    drawnFrom_of_printable (by decide)

theorem drawn_entityNoStatic : entityNoStatic.Drawn := by
  refine drawn_ofEntities fun {parts c} sub x hx => ?_
  rcases List.mem_append.1 hx with field | method
  · obtain ⟨f, hf, rfl⟩ := List.mem_map.1 field
    have names := (List.append_subset.1 (c.field_quotable_subset sub (List.mem_filter.1 hf).1)).1
    have joined : DrawnFrom parts (Text.joined ", " (f.declarators.map (·.name))) :=
      drawnFrom_joined (drawnFrom_of_printable (by decide)) fun name hn => drawnFrom_of_mem (names hn)
    refine drawnFrom_entityMustNot sub ?_
    simp (disch := decide) [joined]
  · refine drawnFrom_of_mem_faultyMethods sub (fun m hm => ?_) method
    have method := drawnFrom_of_mem (c.method_name_mem sub hm)
    simp (disch := decide) [method]

theorem drawn_entityNoSerialization : entityNoSerialization.Drawn := by
  refine drawn_ofEntities fun {parts c} sub x hx => ?_
  rcases List.mem_append.1 hx with constructor | method
  · obtain ⟨k, hk, rfl⟩ := List.mem_map.1 constructor
    have owner := drawnFrom_of_mem (c.name_mem_of_quotable sub)
    have names := c.constructor_name_subset sub (List.mem_filter.1 hk).1
    have named : DrawnFrom parts (k.name.getD "") := by
      cases given : k.name with
      | none => exact drawnFrom_of_printable rfl
      | some name => exact drawnFrom_of_mem (names (by rw [given]; exact .head _))
    refine drawnFrom_entityMustNot sub ?_
    simp (disch := decide) [owner, named]
  · refine drawnFrom_of_mem_faultyMethods sub (fun m hm => ?_) method
    have method := drawnFrom_of_mem (c.method_name_mem sub hm)
    simp (disch := decide) [method]

theorem drawn_entityNoGetters : entityNoGetters.Drawn := by
  refine drawn_ofEntities fun {parts c} sub x => drawnFrom_of_mem_faultyMethods sub fun m hm => ?_
  have method := drawnFrom_of_mem (c.method_name_mem sub hm)
  simp (disch := decide) [method]

theorem drawn_modelExtendsEntity : modelExtendsEntity.Drawn := by
  rintro ctx u _ ⟨⟩ x hx
  refine u.drawnFrom_of_mem_map (List.subset_append_right _ _) (fun c owner => ?_) hx
  simp (disch := decide) [owner]

theorem drawn_modelNamingConvention : modelNamingConvention.Drawn := by
  rintro ctx u _ ⟨⟩ x hx
  split at hx
  next => cases hx
  next =>
    refine u.drawnFrom_of_mem_map (List.subset_append_right _ _) (fun c owner => ?_) hx
    have ending : DrawnFrom (ctx.naming.quotable ++ u.quotable) ctx.naming.modelSuffix :=
      drawnFrom_of_mem (.head _)
    simp (disch := decide) [owner, ending]

theorem drawn_repositoryReturnsEntity : repositoryReturnsEntity.Drawn := by
  rintro ctx u _ ⟨⟩ x hx
  split at hx
  next =>
    refine u.drawnFrom_of_mem_flatMap (List.subset_append_right _ _) (fun c sub x reported => ?_) hx
    obtain ⟨m, hm, returned⟩ := List.mem_filterMap.1 reported
    exact drawnFrom_of_modelReturned? sub hm returned
  next => cases hx

theorem drawn_repositoryAbstractInterface : repositoryAbstractInterface.Drawn := by
  rintro ctx u _ ⟨⟩ x hx
  split at hx
  next => cases hx
  next =>
    refine u.drawnFrom_of_mem_map (List.subset_append_right _ _) (fun c owner => ?_) hx
    simp (disch := decide) [owner]

theorem drawn_lazySingletonForBloc : lazySingletonForBloc.Drawn := by
  rintro ctx u _ ⟨⟩ x hx
  obtain ⟨e, he, discouraged⟩ := List.mem_filterMap.1 hx
  exact drawnFrom_of_discouraged? (u.expr_quotable_subset (List.subset_append_right _ _) he) discouraged

theorem drawn_blocInMultiProvider : blocInMultiProvider.Drawn := by
  rintro ctx u _ ⟨⟩ x hx
  refine u.drawnFrom_of_mem_flatMap (List.subset_append_right _ _) (fun c sub x reported => ?_) hx
  obtain ⟨m, -, built⟩ := List.mem_flatMap.1 reported
  obtain ⟨e, -, rfl⟩ := List.mem_map.1 built
  have owner := drawnFrom_of_mem (c.name_mem_of_quotable sub)
  simp (disch := decide) [owner]

theorem drawn_blocNamingConvention : blocNamingConvention.Drawn := by
  rintro ctx u _ ⟨⟩ x hx
  split at hx
  next =>
    refine u.drawnFrom_of_mem_flatMap (List.subset_append_right _ _) (fun c sub x reported => ?_) hx
    exact drawnFrom_of_mem_blocFileFindings sub (.tail _ (.head _)) reported
  next => cases hx

theorem drawn_cubitSimpleState : cubitSimpleState.Drawn := by
  rintro ctx u _ ⟨⟩ x hx
  split at hx
  next =>
    refine u.drawnFrom_of_mem_flatMap (List.subset_append_right _ _) (fun c sub x reported => ?_) hx
    rcases List.mem_append.1 reported with field | method
    · obtain ⟨f, hf, dependency⟩ := List.mem_filterMap.1 field
      exact drawnFrom_of_dependencyFinding? sub (List.mem_filter.1 hf).1 dependency
    · obtain ⟨m, hm, async⟩ := List.mem_filterMap.1 method
      exact drawnFrom_of_asyncFinding? sub hm async
  next => cases hx

theorem drawn_of_mem_catalog {r : Rule} (builtin : r ∈ catalog) : r.Drawn := by
  refine forall_mem_catalog ?entities ?models ?repositories ?boundaries ?stateUnits r builtin
  case entities =>
    exact ⟨drawn_entityNoMethods, drawn_entityNoCopyWith, drawn_entityNoStatic,
      drawn_entityNoSerialization, drawn_entityNoGetters⟩
  case models => exact ⟨drawn_modelExtendsEntity, drawn_modelNamingConvention⟩
  case repositories => exact ⟨drawn_repositoryReturnsEntity, drawn_repositoryAbstractInterface⟩
  case boundaries =>
    exact ⟨ImportBoundary.drawn_rule (by decide), ImportBoundary.drawn_rule (by decide),
      ImportBoundary.drawn_rule (by decide)⟩
  case stateUnits =>
    exact ⟨drawn_lazySingletonForBloc, drawn_blocInMultiProvider, drawn_blocNamingConvention,
      drawn_cubitSimpleState⟩

end Rule

end ArchLint
