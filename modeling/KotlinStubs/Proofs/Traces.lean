import KotlinStubs.Proofs.Isolation

/-!
# Traces of statements

A statement that a scan takes leaves a trace if it gives a declaration, records a rejection or notes
an event.  `Node.IsBlank` says which statements leave none: those without the name or body that they
need, and the wrappers that hold nothing but such statements.

What a scan records and notes for a statement stands in one piece in what is recorded and noted for
the file (`PartOf`), however deep the statement is nested.

* `bind_eq_pure`, `collect_eq_pure_nil`: composite translations that do nothing.
* `Node.isBlank_of_statement`, `Node.IsBlank.statement_eq`: the statements that leave no trace.
* `Node.Scans.partOf`: the scan of a body in that of a file.
* `translate_leavesTrace`: statements of a file, at every depth.
* `exists_statement_without_trace`: a module named by a string, without body, leaves no trace.
-/

namespace KotlinStubs

namespace Translation

variable {α β γ : Type}

/-- A declaration is given, a rejection recorded or an event noted. -/
def LeavesTrace (x : Translation (List β)) : Prop :=
  x.given ≠ [] ∨ x.rejections ≠ [] ∨ x.log ≠ []

/-! ## Translations that do nothing -/

theorem eq_pure_iff {x : Translation α} {a : α} :
    x = pure a ↔ x.result = .ok a ∧ x.rejections = [] ∧ x.log = [] := by
  rcases x with ⟨log, rejections, result⟩
  constructor
  · intro h
    rw [h]
    exact ⟨rfl, rfl, rfl⟩
  · rintro ⟨rfl, rfl, rfl⟩
    rfl

theorem leavesTrace_iff_ne_pure {x : Translation (List β)} (done : ∃ bs, x.result = .ok bs) :
    x.LeavesTrace ↔ x ≠ pure [] := by
  obtain ⟨bs, hbs⟩ := done
  have nothing : x = pure [] ↔ x.given = [] ∧ x.rejections = [] ∧ x.log = [] := by
    rw [eq_pure_iff, given_ok hbs, hbs, Except.ok.injEq]
  rw [LeavesTrace, ne_eq x, nothing, Classical.not_and_iff_not_or_not,
    Classical.not_and_iff_not_or_not]

theorem bind_eq_pure {x : Translation α} {f : α → Translation β} {b : β} :
    (x >>= f) = pure b ↔ ∃ a, x = pure a ∧ f a = pure b := by
  constructor
  · intro h
    obtain ⟨result, rejections, log⟩ := eq_pure_iff.1 h
    obtain ⟨a, ha, hb⟩ := result_bind_eq_ok.1 result
    rw [rejections_bind_ok ha, List.append_eq_nil_iff] at rejections
    rw [bind_ok ha] at log
    obtain ⟨logFirst, logOthers⟩ := List.append_eq_nil_iff.1 log
    exact ⟨a, eq_pure_iff.2 ⟨ha, rejections.1, logFirst⟩,
      eq_pure_iff.2 ⟨hb, rejections.2, logOthers⟩⟩
  · rintro ⟨a, rfl, h⟩
    rw [pure_bind, h]

theorem note_bind_ne_pure {e : Event} {f : Unit → Translation β} {b : β} :
    (note e >>= f) ≠ pure b := by
  intro h
  obtain ⟨_, noted, -⟩ := bind_eq_pure.1 h
  cases congrArg Translation.log noted

theorem collect_eq_pure_nil {f : α → Translation (List β)} {as : List α} :
    collect f as = pure [] ↔ ∀ a ∈ as, f a = pure [] := by
  induction as with
  | nil => simp
  | cons a as ih =>
    rw [collect_cons, bind_eq_pure, List.forall_mem_cons, ← ih]
    constructor
    · rintro ⟨first, hfirst, h⟩
      obtain ⟨others, hothers, h⟩ := bind_eq_pure.1 h
      obtain ⟨rfl, rfl⟩ := List.append_eq_nil_iff.1 (Except.ok.inj (congrArg Translation.result h))
      exact ⟨hfirst, hothers⟩
    · rintro ⟨hfirst, hothers⟩
      exact ⟨[], hfirst, by rw [hothers]; rfl⟩

/-- What does nothing for each element, unless it aborts, does nothing for the list. -/
theorem collect_eq_pure_nil_of_not_aborts {f : α → Translation (List β)} {as : List α}
    (h : ∀ a ∈ as, ¬ (f a).Aborts → f a = pure []) (done : ¬ (collect f as).Aborts) :
    collect f as = pure [] := by
  induction as with
  | nil => rfl
  | cons a as ih =>
    rw [collect_cons] at done ⊢
    have first := h a List.mem_cons_self fun aborts => done aborts.bind
    rw [first, pure_bind] at done ⊢
    have others := ih (fun b hb => h b (List.mem_cons_of_mem a hb)) fun aborts => done aborts.bind
    rw [others]
    rfl

theorem reach?_eq_pure {n? : Option Node} (h : (reach? n?).result = .ok ()) :
    reach? n? = pure () := by
  cases n? with
  | none => rfl
  | some n => exact reach_of_isLegible (isLegible_of_reach h)

theorem reachAll_eq_pure {ns : List Node} (h : (reachAll ns).result = .ok ()) :
    reachAll ns = pure () :=
  reachAll_of_isLegible (reachAll_eq_ok.1 h)

/-! ## Parts of translations -/

/-- What one translation notes and records stands in one piece in what another does, and it does not
abort unless the other does. -/
structure PartOf (x : Translation α) (y : Translation β) : Prop where
  log : x.log <:+: y.log
  rejections : x.rejections <:+: y.rejections
  done : ¬ y.Aborts → ¬ x.Aborts

theorem PartOf.refl (x : Translation α) : x.PartOf x :=
  ⟨List.infix_rfl, List.infix_rfl, id⟩

theorem PartOf.trans {x : Translation α} {y : Translation β} {z : Translation γ}
    (h : x.PartOf y) (h' : y.PartOf z) : x.PartOf z :=
  ⟨h.log.trans h'.log, h.rejections.trans h'.rejections, fun done => h.done (h'.done done)⟩

/-- A part of the first of two translations. -/
theorem PartOf.bind_left {x : Translation α} {y : Translation β} {f : β → Translation γ}
    (h : x.PartOf y) : x.PartOf (y >>= f) := by
  refine h.trans ?_
  have done : ¬ (y >>= f).Aborts → ¬ y.Aborts := fun done aborts => done aborts.bind
  cases hy : y.result with
  | ok b =>
    rw [bind_ok hy] at done ⊢
    exact ⟨(List.prefix_append _ _).isInfix, (List.prefix_append _ _).isInfix, done⟩
  | error e =>
    rw [bind_error hy] at done ⊢
    exact ⟨List.infix_rfl, List.infix_rfl, done⟩

/-- A part of the second of two translations. -/
theorem PartOf.bind_right {x : Translation α} {y : Translation β} {f : β → Translation γ} {b : β}
    (hy : y.result = .ok b) (h : x.PartOf (f b)) : x.PartOf (y >>= f) := by
  refine h.trans ⟨?_, ?_, fun done aborts => done ((aborts_of_bind hy).2 aborts)⟩
  · rw [bind_ok hy]
    exact (List.suffix_append _ _).isInfix
  · rw [bind_ok hy]
    exact (List.suffix_append _ _).isInfix

/-- An element of a list, after elements for which nothing fails. -/
theorem partOf_collect {f : α → Translation (List β)} {before after : List α} {a : α}
    (first : ∃ bs, (collect f before).result = .ok bs) :
    (f a).PartOf (collect f (before ++ a :: after)) := by
  obtain ⟨bs, hbs⟩ := first
  rw [collect_append, collect_cons]
  exact .bind_right hbs (.bind_left (.bind_left (.refl _)))

theorem partOf_rescue (x : Translation α) (recover : Fault → Nat → Translation α) :
    x.PartOf (x.rescue recover) := by
  rcases x.ok_or_aborts_or_line with ⟨a, ha⟩ | aborts | ⟨e, line, he, hl⟩
  · rw [rescue_ok ha]
    exact .refl x
  · rw [rescue_aborts aborts]
    exact .refl x
  · rw [rescue_line he hl]
    refine ⟨(List.prefix_append _ _).isInfix, (List.prefix_append _ _).isInfix, ?_⟩
    rintro - ⟨e', he', ends⟩
    cases he.symm.trans he'
    cases hl.symm.trans ends

end Translation

open Translation

namespace Node

/-! ## Blank statements -/

/-- A statement without the name or body that it needs, or that wraps nothing but such. -/
inductive IsBlank : Node → Prop
  | exported {n c} :
      StatementForm.ofType n.type = .exported →
      n.child? .declaration = some c →
      IsBlank c →
      IsBlank n
  | ambient {n} :
      StatementForm.ofType n.type = .ambient →
      (∀ c ∈ n.namedParts, IsBlank c) →
      IsBlank n
  | expression {n c} :
      StatementForm.ofType n.type = .expression →
      n.firstNamed? = some c →
      c.type = "internal_module" →
      IsBlank c →
      IsBlank n
  | nameless {n} :
      StatementForm.ofType n.type ∈ [.function, .interfaceBlock, .classBlock] →
      n.child? .name = none →
      IsBlank n
  | declarators {n} :
      StatementForm.ofType n.type = .declarators →
      (∀ d ∈ n.payloads declaratorDelimiters, d.child? .name = none) →
      IsBlank n
  | namespaceBlock {n} :
      StatementForm.ofType n.type = .namespaceBlock →
      n.child? .name = none ∨ n.child? .body = none →
      IsBlank n

variable {σ : Settings} {scope : Scope} {n : Node}

theorem functionStatement_nameless (n : Node) :
    (n.functionStatement σ).Gives fun ds => ds = [] → n.child? .name = none := by
  unfold functionStatement
  refine gives_bind fun _ => ?_
  split
  · next nameless => exact gives_pure fun _ => nameless
  · exact gives_bind fun _ => gives_bind fun _ => gives_pure nofun

theorem declarator_nameless (isVar : Bool) (n : Node) :
    (n.declarator σ isVar).Gives fun ds => ds = [] → n.child? .name = none := by
  unfold declarator
  split
  · refine gives_bind fun _ => ?_
    split
    · next nameless => exact gives_pure fun _ => nameless
    · exact gives_bind fun _ => gives_bind fun _ => gives_pure nofun
  · exact gives_fail _

theorem containerStatement_nameless (kind : DeclarationKind)
    (member : Node → Translation (Option Declaration)) (n : Node) :
    (n.containerStatement σ kind member).Gives fun ds => ds = [] → n.child? .name = none := by
  unfold containerStatement
  refine gives_bind fun _ => ?_
  split
  · next nameless => exact gives_pure fun _ => nameless
  · exact gives_bind fun _ => gives_bind fun _ => gives_bind fun _ => gives_bind fun _ =>
      gives_bind fun _ => gives_pure nofun

theorem child?_name_of_plain {x : Translation (List Declaration)}
    (form : StatementForm.ofType n.type ∈ [.function, .interfaceBlock, .classBlock])
    (h : n.plainStatement? σ = some x) : x.Gives fun ds => ds = [] → n.child? .name = none := by
  simp only [List.mem_cons, List.not_mem_nil, or_false] at form
  rcases form with form | form | form <;> rw [plainStatement?, form] at h <;> cases h
  · exact n.functionStatement_nameless
  · exact n.containerStatement_nameless _ _
  · exact n.containerStatement_nameless _ _

/-- A namespace that leaves no trace has no name or no body; one that is named by a string is noted,
and any other one gives a declaration. -/
theorem missing_of_namespaceStatement (h : n.namespaceStatement σ scope = pure []) :
    n.child? .name = none ∨ n.child? .body = none := by
  rw [namespaceStatement_eq] at h
  obtain ⟨_, -, h⟩ := bind_eq_pure.1 h
  obtain ⟨_, -, h⟩ := bind_eq_pure.1 h
  cases hname : n.child? .name with
  | none => exact .inl rfl
  | some name =>
    cases hbody : n.child? .body with
    | none => exact .inr rfl
    | some body =>
      rw [hname, hbody] at h
      dsimp only at h
      split at h
      · obtain ⟨_, -, h⟩ := bind_eq_pure.1 h
        exact absurd h note_bind_ne_pure
      · obtain ⟨_, -, h⟩ := bind_eq_pure.1 h
        obtain ⟨_, -, h⟩ := bind_eq_pure.1 h
        obtain ⟨_, -, h⟩ := bind_eq_pure.1 h
        cases congrArg Translation.result h

/-- A statement that leaves no trace is blank. -/
theorem isBlank_of_statement (h : n.statement σ scope = pure []) : n.IsBlank := by
  induction n using sizeInduction with
  | step n ih =>
    cases form : StatementForm.ofType n.type with
    | exported =>
      rw [statement_exported form] at h
      obtain ⟨_, -, h⟩ := bind_eq_pure.1 h
      split at h
      · next c found => exact .exported form found (ih c (sizeOf_lt_of_child? found) h)
      · exact absurd h note_bind_ne_pure
    | ambient =>
      rw [statement_ambient form] at h
      obtain ⟨_, -, h⟩ := bind_eq_pure.1 h
      refine .ambient form fun c hc => ih c (sizeOf_lt_of_mem_namedParts hc) ?_
      exact collect_eq_pure_nil.1 h c hc
    | expression =>
      rw [statement_expression form] at h
      obtain ⟨_, -, h⟩ := bind_eq_pure.1 h
      split at h
      · next c found =>
        split at h
        · next type => exact .expression form found type (ih c (sizeOf_lt_of_firstNamed? found) h)
        · exact absurd h note_bind_ne_pure
      · exact absurd h note_bind_ne_pure
    | function | interfaceBlock | classBlock =>
      obtain ⟨x, plain⟩ := exists_plainStatement σ (n := n) (by rw [form]; decide)
      rw [statement_plain plain] at h
      have member : StatementForm.ofType n.type ∈ [.function, .interfaceBlock, .classBlock] := by
        rw [form]
        decide
      exact .nameless member (child?_name_of_plain member plain [] (eq_pure_iff.1 h).1 rfl)
    | declarators =>
      rw [statement_plain (by rw [plainStatement?, form]), variablesStatement_eq] at h
      obtain ⟨_, -, h⟩ := bind_eq_pure.1 h
      refine .declarators form fun d hd => ?_
      have nothing := collect_eq_pure_nil.1 h d hd
      exact d.declarator_nameless _ [] (eq_pure_iff.1 nothing).1 rfl
    | namespaceBlock =>
      rw [statement_namespace form] at h
      exact .namespaceBlock form (missing_of_namespaceStatement h)
    | other =>
      rw [statement_other form] at h
      obtain ⟨_, -, h⟩ := bind_eq_pure.1 h
      exact absurd h note_bind_ne_pure

/-- A blank statement leaves no trace. -/
theorem IsBlank.statement_eq (h : n.IsBlank) (done : ¬ (n.statement σ scope).Aborts) :
    n.statement σ scope = pure [] := by
  induction h with
  | exported form found _ ih =>
    rw [statement_exported form, found] at done ⊢
    obtain ⟨_, reached, done⟩ := (decisive_reach? _).ok_of_bind done
    rw [reach?_eq_pure reached, pure_bind]
    exact ih done
  | ambient form _ ih =>
    rw [statement_ambient form] at done ⊢
    obtain ⟨_, reached, done⟩ := (decisive_reachAll _).ok_of_bind done
    rw [reachAll_eq_pure reached, pure_bind]
    exact collect_eq_pure_nil_of_not_aborts ih done
  | expression form found type _ ih =>
    rw [statement_expression form, found] at done ⊢
    obtain ⟨_, reached, done⟩ := (decisive_reach? _).ok_of_bind done
    simp only [if_pos type] at done ⊢
    rw [reach?_eq_pure reached, pure_bind]
    exact ih done
  | @nameless n form nameless =>
    simp only [List.mem_cons, List.not_mem_nil, or_false] at form
    rcases form with form | form | form <;> rw [statement_plain (by rw [plainStatement?, form])]
    · rw [functionStatement, nameless]
      rfl
    · rw [containerStatement, nameless]
      rfl
    · rw [containerStatement, nameless]
      rfl
  | declarators form nameless =>
    rw [statement_plain (by rw [plainStatement?, form]), variablesStatement_eq] at done ⊢
    obtain ⟨_, reached, done⟩ := (decisive_reachAll _).ok_of_bind done
    rw [reachAll_eq_pure reached, pure_bind]
    refine collect_eq_pure_nil_of_not_aborts (fun d hd doneHere => ?_) done
    unfold declarator at doneHere ⊢
    split
    · rw [nameless d hd]
      rfl
    · next other =>
      rw [if_neg other] at doneHere
      exact absurd ⟨_, rfl, rfl⟩ doneHere
  | namespaceBlock form missing =>
    rw [statement_namespace form, namespaceStatement_eq] at done ⊢
    obtain ⟨_, reachedName, done⟩ := (decisive_reach? _).ok_of_bind done
    obtain ⟨_, reachedBody, done⟩ := (decisive_reach? _).ok_of_bind done
    rw [reach?_eq_pure reachedName, reach?_eq_pure reachedBody, pure_bind, pure_bind]
    split
    · next hname hbody =>
      rcases missing with none | none
      · cases none.symm.trans hname
      · cases none.symm.trans hbody
    · rfl

/-- Unless the file is aborted, what a scan takes leaves a trace just if it is not blank. -/
theorem leavesTrace_scanned (done : ¬ (n.scanned σ scope).Aborts) :
    (n.scanned σ scope).LeavesTrace ↔ ¬ n.IsBlank := by
  rw [leavesTrace_iff_ne_pure (n.decisive_scanned.ok done)]
  refine not_congr ⟨fun nothing => ?_, fun blank => ?_⟩
  · -- a statement that is left out records its own entry
    rcases (n.statement σ scope).ok_or_aborts_or_line with ⟨ds, hds⟩ | aborts | ⟨e, line, he, hl⟩
    · rw [scanned, isolated, rescue_ok hds] at nothing
      exact isBlank_of_statement nothing
    · exact absurd aborts (not_aborts_of_scanned done)
    · have recorded := (scanned_of_error he hl done).2
      rw [nothing] at recorded
      exact absurd recorded.symm (List.append_ne_nil_of_right_ne_nil _ (List.cons_ne_nil _ _))
  · have nothing := blank.statement_eq (not_aborts_of_scanned done)
    rw [scanned, isolated, nothing]
    rfl

/-! ## The way to a statement -/

/-- The statements in a namespace are part of it. -/
theorem IsNamespace.partOf {name : String} {i : Nat} {body : Node} (h : n.IsNamespace name i body)
    (done : ¬ (n.statement σ scope).Aborts) :
    (collect (scanned σ (scope.enter name)) body.namedParts).PartOf (n.statement σ scope) := by
  rw [h.statement_eq] at done ⊢
  obtain ⟨_, reachedName, done⟩ := (decisive_reach? _).ok_of_bind done
  obtain ⟨_, reachedBody, done⟩ := (decisive_reach _).ok_of_bind done
  obtain ⟨_, reachedParts, -⟩ := (decisive_reachAll _).ok_of_bind done
  have inner := PartOf.refl (collect (scanned σ (scope.enter name)) body.namedParts)
  exact .bind_right reachedName (.bind_right reachedBody (.bind_right reachedParts inner.bind_left))

/-- The statement on the way is part of the one that the way starts from, unless the file is
aborted. -/
theorem LeadsTo.partOf {m : Node} {q : List Nat} (way : LeadsTo (Succeeds σ scope) n q m)
    (done : ¬ (n.statement σ scope).Aborts) :
    (m.statement σ scope).PartOf (n.statement σ scope) := by
  induction way with
  | here => exact .refl _
  | @inside n i c q m wraps earlier _ ih =>
    suffices inner : (c.statement σ scope).PartOf (n.statement σ scope) from
      (ih (inner.done done)).trans inner
    cases wraps with
    | exported wrapper first =>
      rw [statement_exported wrapper, first.child?] at done ⊢
      obtain ⟨_, reached, -⟩ := (decisive_reach? _).ok_of_bind done
      exact .bind_right reached (.refl _)
    | ambient wrapper at_i part =>
      rw [statement_ambient wrapper] at done ⊢
      obtain ⟨_, reached, -⟩ := (decisive_reachAll _).ok_of_bind done
      refine .bind_right reached ?_
      rw [namedParts_eq_of_getElem? at_i part]
      refine partOf_collect (collect_ok fun d hd => ?_)
      exact earlier wrapper d (List.mem_filter.1 hd).1 (List.mem_filter.1 hd).2
    | expression wrapper first type =>
      rw [statement_expression wrapper, first.firstNamed?] at done ⊢
      simp only [if_pos type] at done ⊢
      obtain ⟨_, reached, -⟩ := (decisive_reach? _).ok_of_bind done
      exact .bind_right reached (.refl _)

/-- What is taken from a list of scanned statements is part of it. -/
theorem partOf_scanned {ns : List Node} {s : Node} (hs : s ∈ ns)
    (done : ¬ (collect (scanned σ scope) ns).Aborts) :
    (s.scanned σ scope).PartOf (collect (scanned σ scope) ns) := by
  obtain ⟨before, after, rfl⟩ := List.append_of_mem hs
  refine partOf_collect ((Decisive.collect decisive_scanned before).ok fun aborts => done ?_)
  rw [collect_append]
  exact aborts.bind

/-- The scan of a body on the way is part of the scan of the body that it starts from. -/
theorem Scans.partOf {b b' : Node} {p : List Nat} {names : List String}
    (way : Scans (Succeeds σ) scope b p names b')
    (done : ¬ (collect (scanned σ scope) b.namedParts).Aborts) :
    (collect (scanned σ (scope.within names)) b'.namedParts).PartOf
      (collect (scanned σ scope) b.namedParts) := by
  induction way with
  | here => exact .refl _
  | @inside scope b j c q n name i body p names b' at_j part steps inner _ ih =>
    have member : c ∈ b.namedParts := mem_namedParts_iff.2 ⟨_, at_j, part⟩
    have outer := partOf_scanned member done
    have statement : (c.statement σ scope).PartOf (c.scanned σ scope) := partOf_rescue _ _
    have doneStatement := statement.done (outer.done done)
    have way := steps.partOf doneStatement
    have entered := inner.partOf (way.done doneStatement)
    have here := ih (entered.done (way.done doneStatement))
    exact (here.trans (entered.trans way)).trans (statement.trans outer)

end Node

/-! ## Files -/

/-- **Traces.** In a file that is translated, a statement that the scan gets to, at whatever depth,
gives a declaration, records a rejection or notes an event, unless it is blank, and then it does none
of these.  What it records and notes is recorded and noted for the file, in one piece. -/
theorem translate_leavesTrace {σ : Settings} {path : String} {root body s : Node}
    {file : TranslatedFile} {p : List Nat} {names : List String}
    (done : translate σ path root = .ok file)
    (way : Node.Scans (Node.Succeeds σ) { path := path } root p names body)
    (member : s ∈ body.namedParts) :
    ((s.scanned σ (Scope.within { path := path } names)).LeavesTrace ↔ ¬ s.IsBlank) ∧
      (s.scanned σ (Scope.within { path := path } names)).log <:+: (root.scanFile σ path).log ∧
      (s.scanned σ (Scope.within { path := path } names)).rejections <:+: file.rejections := by
  obtain ⟨scan, -, recorded⟩ := translate_eq_ok.1 done
  have notAborted := not_aborts_of_ok scan
  rw [Node.scanFile_eq] at notAborted
  obtain ⟨_, reachedRoot, notAborted⟩ := (decisive_reach _).ok_of_bind notAborted
  obtain ⟨_, reachedParts, notAborted⟩ := (decisive_reachAll _).ok_of_bind notAborted
  have inBody := way.partOf notAborted
  have here := Node.partOf_scanned member (inBody.done notAborted)
  have whole : (s.scanned σ (Scope.within { path := path } names)).PartOf
      (root.scanFile σ path) := by
    rw [Node.scanFile_eq]
    exact .bind_right reachedRoot (.bind_right reachedParts (here.trans inBody))
  rw [recorded]
  exact ⟨Node.leavesTrace_scanned (here.done (inBody.done notAborted)), whole.log,
    whole.rejections⟩

namespace Node

/-- The function that is left out of the namespace leaves a warning and a rejection. -/
theorem translate_leavesTrace_restOfNoArray : ∃ file,
    translate {} "n.d.ts" rejectedInNamespace = .ok file ∧
      restOfNoArray ∈ (bodyOf [leaf "empty_statement" ";" [], restOfNoArray]).namedParts ∧
      ((restOfNoArray.scanned {} (Scope.within { path := "n.d.ts" } ["N"])).LeavesTrace ↔
        ¬ restOfNoArray.IsBlank) ∧
      (restOfNoArray.scanned {} (Scope.within { path := "n.d.ts" } ["N"])).log <:+:
        (rejectedInNamespace.scanFile {} "n.d.ts").log ∧
      (restOfNoArray.scanned {} (Scope.within { path := "n.d.ts" } ["N"])).rejections <:+:
        file.rejections := by
  have member : restOfNoArray ∈
      (bodyOf [leaf "empty_statement" ";" [], restOfNoArray]).namedParts := by
    rw [namedParts_bodyOf (by decide)]
    exact List.mem_cons_of_mem _ List.mem_cons_self
  exact ⟨_, translate_rejectedInNamespace, member,
    translate_leavesTrace translate_rejectedInNamespace (scans_rejectedInNamespace _ _) member⟩

/-- `declare module "jquery"` -/
def moduleWithoutBody : Node :=
  branch "program" "declare" [] [
    branch "ambient_declaration" "declare" [] [
      token "declare",
      branch "module" "module" [] [token "module", leaf "string" "\"jquery\"" [.name]]]]

/-- The module is passed over in silence, though one with a body would be noted. -/
theorem exists_statement_without_trace :
    translate {} "j.d.ts" moduleWithoutBody = .ok { path := "j.d.ts" } ∧
      ∃ s ∈ moduleWithoutBody.namedParts, ¬ (s.scanned {} { path := "j.d.ts" }).LeavesTrace := by
  obtain ⟨s, single⟩ : ∃ s, moduleWithoutBody.namedParts = [s] := ⟨_, rfl⟩
  have silent : s.scanned {} { path := "j.d.ts" } = pure [] := by
    cases single
    rw [scanned, isolated, statement_ambient rfl,
      show (branch "ambient_declaration" _ _ _ : Node).namedParts = [branch "module" _ _ _] from rfl,
      collect_singleton, statement_namespace rfl, namespaceStatement_eq]
    rfl
  have whole : moduleWithoutBody.scanFile {} "j.d.ts" = pure [] := by
    rw [scanFile_eq, single, collect_singleton, silent]
    cases single
    rfl
  refine ⟨translate_eq_ok.2 ?_, s, ?_, ?_⟩
  · rw [whole]
    exact ⟨rfl, rfl, rfl⟩
  · rw [single]
    exact List.mem_singleton_self s
  · rw [silent, leavesTrace_iff_ne_pure ⟨[], rfl⟩]
    exact not_not_intro rfl

end Node

end KotlinStubs
