import KotlinStubs.Proofs.Without

/-!
# Isolation of rejected statements

A statement that holds a rest parameter of the wrong shape costs nothing but itself: the tree
without it is translated to the same declarations, and of the rejections only those are missing that
were recorded on its behalf, in one piece that ends with its own.

The two runs are compared along the way from the root to the statement (`Scans`, `LeadsTo`).  What
they do off this way is the same; on it, each translation `RecordsMore` than its counterpart.

* `RecordsMore.rescue`, `recordsMore_around`, `recordsMore_omitting`: how the comparison goes
  through composite translations.
* `declaredTexts_without`: a statement keeps its name when something deep inside it is taken out.
* `LeadsTo.recordsMore`, `Scans.recordsMore`: the comparison of statements and of bodies.
* `translate_without_rejected`: the comparison of files.
-/

namespace KotlinStubs

namespace Translation

variable {α β : Type} {block : List Rejection}

/-- Both translations have the same result, and the first records a block of rejections more. -/
structure RecordsMore (block : List Rejection) (x x' : Translation α) : Prop where
  result : x.result = x'.result
  rejections : ∃ before after,
    x.rejections = before ++ block ++ after ∧ x'.rejections = before ++ after

theorem RecordsMore.bind_left {x x' : Translation α} (h : RecordsMore block x x')
    (f : α → Translation β) : RecordsMore block (x >>= f) (x' >>= f) := by
  obtain ⟨result, before, after, hx, hx'⟩ := h
  refine ⟨by rw [result_bind, result_bind, result], ?_⟩
  cases hr : x.result with
  | ok a =>
    refine ⟨before, after ++ (f a).rejections, ?_, ?_⟩
    · rw [rejections_bind_ok hr, hx]
      simp only [List.append_assoc]
    · rw [rejections_bind_ok (result.symm.trans hr), hx', List.append_assoc]
  | error e =>
    refine ⟨before, after, ?_, ?_⟩
    · rw [rejections_bind_error hr, hx]
    · rw [rejections_bind_error (result.symm.trans hr), hx']

theorem RecordsMore.bind_right {x : Translation α} {f f' : α → Translation β} {a : α}
    (hx : x.result = .ok a) (h : RecordsMore block (f a) (f' a)) :
    RecordsMore block (x >>= f) (x >>= f') := by
  obtain ⟨result, before, after, hf, hf'⟩ := h
  refine ⟨?_, x.rejections ++ before, after, ?_, ?_⟩
  · rw [bind_ok hx, bind_ok hx]
    exact result
  · rw [rejections_bind_ok hx, hf]
    simp only [List.append_assoc]
  · rw [rejections_bind_ok hx, hf', List.append_assoc]

theorem RecordsMore.after {x x' : Translation α} (h : RecordsMore block x x')
    (y : Translation α) : RecordsMore block (x.after y) (x'.after y) := by
  obtain ⟨_, before, after, hx, hx'⟩ := h
  refine ⟨rfl, before, after ++ y.rejections, ?_, ?_⟩
  · rw [Translation.after, hx]
    simp only [List.append_assoc]
  · rw [Translation.after, hx', List.append_assoc]

/-- The comparison goes through a rescue that records the same for both. -/
theorem RecordsMore.rescue {x x' : Translation α} (h : RecordsMore block x x')
    {recover recover' : Fault → Nat → Translation α}
    (same : ∀ e line, recover e line = recover' e line) :
    RecordsMore block (x.rescue recover) (x'.rescue recover') := by
  rcases x.ok_or_aborts_or_line with ⟨a, ha⟩ | aborts | ⟨e, line, he, hl⟩
  · rw [rescue_ok ha, rescue_ok (h.result.symm.trans ha)]
    exact h
  · have aborts' : x'.Aborts := by
      unfold Aborts
      rw [← h.result]
      exact aborts
    rw [rescue_aborts aborts, rescue_aborts aborts']
    exact h
  · rw [rescue_line he hl, rescue_line (h.result.symm.trans he) hl, ← same]
    exact h.after _

/-- Two lists that differ in one element. -/
theorem recordsMore_around {f : α → Translation (List β)} {before after : List α} {a a' : α}
    (first : ∃ bs, (collect f before).result = .ok bs)
    (more : ¬ (f a).Aborts → RecordsMore block (f a) (f a'))
    (done : ¬ (collect f (before ++ a :: after)).Aborts) :
    RecordsMore block (collect f (before ++ a :: after)) (collect f (before ++ a' :: after)) := by
  obtain ⟨bs, hbs⟩ := first
  rw [collect_append, aborts_of_bind hbs] at done
  rw [collect_append, collect_append]
  refine .bind_right hbs (.bind_left ?_ _)
  rw [collect_cons, collect_cons]
  refine .bind_left (more fun aborts => done ?_) _
  rw [collect_cons]
  exact aborts.bind.bind

/-- A list with and without an element that gives nothing. -/
theorem recordsMore_omitting {f : α → Translation (List β)} {before after : List α} {a : α}
    (first : ∃ bs, (collect f before).result = .ok bs) (nothing : (f a).result = .ok []) :
    RecordsMore (f a).rejections (collect f (before ++ a :: after))
      (collect f (before ++ after)) := by
  obtain ⟨bs, hbs⟩ := first
  have omitted : collect f (a :: after) = (f a).after (collect f after) := by
    rw [collect_cons, bind_ok nothing]
    simp only [List.nil_append, bind_pure]
  rw [collect_append, collect_append]
  refine .bind_right hbs (.bind_left ?_ _)
  rw [omitted]
  exact ⟨rfl, [], (collect f after).rejections, rfl, rfl⟩

end Translation

open Translation

namespace Node

/-! ## Names -/

section

variable {n c : Node} {i : Nat} {p : List Nat}

/-- What a rejection learns of the name that a statement declares. -/
def declaredTexts (n : Node) : Translation (Option (Option String)) :=
  Option.map Node.text <$> n.declaredName?

/-- The name that a rejection learns is that of the statement itself, or else of what it wraps. -/
theorem declaredTexts_eq (n : Node) :
    n.declaredTexts = (do
      reach? (n.child? .name)
      match n.child? .name with
      | some name => pure (some name.text)
      | none =>
        if (StatementForm.ofType n.type).isWrapper then do
          reach? (n.child? .declaration)
          match n.child? .declaration with
          | some inner => inner.declaredTexts
          | none => do
            reach? n.firstNamed?
            match n.firstNamed? with
            | some inner => inner.declaredTexts
            | none => pure none
        else
          pure none) := by
  rw [declaredTexts, declaredName?_eq, map_bind]
  refine bind_congr fun _ => ?_
  cases n.child? .name with
  | some name => rw [map_pure]; rfl
  | none =>
    dsimp only
    split
    · rw [map_bind]
      refine bind_congr fun _ => ?_
      cases n.child? .declaration with
      | some inner => rfl
      | none =>
        dsimp only
        rw [map_bind]
        refine bind_congr fun _ => ?_
        cases n.firstNamed? with
        | some inner => rfl
        | none => rw [map_pure]; rfl
    · rw [map_pure]
      rfl

/-- A statement keeps its name if the statement on the way to the node that is taken out does. -/
theorem declaredTexts_without (h : n.children[i]? = some c) (deep : p ≠ [])
    (same : (c.without p).declaredTexts = c.declaredTexts) :
    (n.without (i :: p)).declaredTexts = n.declaredTexts := by
  rw [declaredTexts_eq, declaredTexts_eq, without_type, reach?_child?_without h deep,
    reach?_child?_without h deep, reach?_firstNamed?_without h deep]
  refine bind_congr fun _ => ?_
  rcases child?_without h deep .name with keep | ⟨old, new⟩
  · rw [keep]
    cases n.child? .name with
    | some name => rfl
    | none =>
      dsimp only
      congr 2
      funext _
      rcases child?_without h deep .declaration with keep | ⟨old, new⟩
      · rw [keep]
        cases n.child? .declaration with
        | some inner => rfl
        | none =>
          dsimp only
          congr 1
          funext _
          rcases firstNamed?_without h deep with keep | ⟨old, new⟩
          · rw [keep]
          · rw [old, new]
            exact same
      · rw [old, new]
        exact same
  · rw [old, new]
    dsimp only
    rw [without_text]

/-- The name in the entry for a statement, from the text of the node that names it. -/
def recordedName : Option (Option String) → Translation (Option String)
  | some (some text) => pure (some text)
  | some none => fail .undecodable
  | none => pure none

theorem nameText?_eq (name? : Option Node) :
    nameText? name? = recordedName (name?.map Node.text) := by
  cases name? with
  | none => rfl
  | some name =>
    rw [nameText?, Translation.read, Option.map_some]
    cases name.text <;> rfl

theorem rejectStatement_eq (scope : Scope) (n : Node) (e : Fault) (line : Nat) :
    n.rejectStatement scope e line = (do
      let texts ← n.declaredTexts
      note (.rejected scope.path scope.qualifier n.type n.line e.message)
      let name ← recordedName texts
      reject { name := name, nodeType := n.type, line := line, error := e.message }
      pure []) := by
  rw [rejectStatement, declaredTexts, bind_map_left]
  refine bind_congr fun name? => ?_
  rw [nameText?_eq]

/-- A statement is left out in the same way if it keeps its name. -/
theorem rejectStatement_without (scope : Scope) (e : Fault) (line : Nat)
    (same : (n.without p).declaredTexts = n.declaredTexts) :
    (n.without p).rejectStatement scope e line = n.rejectStatement scope e line := by
  rw [rejectStatement_eq, rejectStatement_eq, same, without_type, without_line]

end

/-! ## The way to the statement -/

variable {σ : Settings} {scope : Scope} {block : List Rejection} {n m : Node} {p r : List Nat}

/-- The statement is translated without a fault. -/
def Succeeds (σ : Settings) (scope : Scope) (n : Node) : Prop :=
  ∃ ds, (n.statement σ scope).result = .ok ds

/-- A scan and its counterpart, if they differ in the list of one statement. -/
theorem recordsMore_scanned (same : (n.without p).declaredTexts = n.declaredTexts)
    (more : ¬ (n.statement σ scope).Aborts →
      RecordsMore block (n.statement σ scope) ((n.without p).statement σ scope))
    (done : ¬ (n.scanned σ scope).Aborts) :
    RecordsMore block (n.scanned σ scope) ((n.without p).scanned σ scope) :=
  (more (not_aborts_of_scanned done)).rescue fun e line =>
    (rejectStatement_without scope e line same).symm

theorem IsNamespace.declaredTexts_without {name : String} {i : Nat} {body : Node}
    (h : n.IsNamespace name i body) (deep : r ≠ []) :
    (n.without (i :: r)).declaredTexts = n.declaredTexts := by
  obtain ⟨head, named, -, -⟩ := h.named
  rw [declaredTexts_eq, declaredTexts_eq, reach?_child?_without h.body.2 deep]
  refine bind_congr fun _ => ?_
  rcases child?_without h.body.2 deep .name with keep | ⟨old, new⟩
  · rw [keep, named]
  · rw [old, new]
    dsimp only
    rw [without_text]

theorem LeadsTo.declaredTexts_without {passes : Node → Prop} (way : LeadsTo passes n p m)
    (deep : r ≠ []) (same : (m.without r).declaredTexts = m.declaredTexts) :
    (n.without (p ++ r)).declaredTexts = n.declaredTexts := by
  induction way with
  | here => exact same
  | @inside n i c p m wraps _ _ ih =>
    have below : p ++ r ≠ [] := fun h => deep (List.append_eq_nil_iff.1 h).2
    exact Node.declaredTexts_without wraps.getElem? below (ih same)

/-- A namespace in which more is recorded. -/
theorem IsNamespace.recordsMore {name : String} {i : Nat} {body : Node}
    (h : n.IsNamespace name i body) (deep : r ≠ [])
    (more : ¬ (collect (scanned σ (scope.enter name)) body.namedParts).Aborts →
      RecordsMore block (collect (scanned σ (scope.enter name)) body.namedParts)
        (collect (scanned σ (scope.enter name)) (body.without r).namedParts))
    (done : ¬ (n.statement σ scope).Aborts) :
    RecordsMore block (n.statement σ scope) ((n.without (i :: r)).statement σ scope) := by
  rw [h.statement_eq] at done ⊢
  rw [(h.without deep).statement_eq, reach?_child?_without h.body.2 deep, reach_without,
    without_line]
  obtain ⟨_, reachedName, done⟩ := (decisive_reach? _).ok_of_bind done
  obtain ⟨_, reachedBody, done⟩ := (decisive_reach _).ok_of_bind done
  obtain ⟨_, reachedParts, done⟩ := (decisive_reachAll _).ok_of_bind done
  have legible := reachAll_eq_ok.1 reachedParts
  rw [reachAll_of_isLegible legible, reachAll_of_isLegible (legible_without legible r)]
  have inner := more fun aborts => done aborts.bind
  exact .bind_right reachedName (.bind_right reachedBody (.bind_right rfl (inner.bind_left _)))

/-- A statement on the way to one in which more is recorded. -/
theorem LeadsTo.recordsMore (way : LeadsTo (Succeeds σ scope) n p m) (deep : r ≠ [])
    (form : StatementForm.ofType m.type = .namespaceBlock)
    (more : ¬ (m.statement σ scope).Aborts →
      RecordsMore block (m.statement σ scope) ((m.without r).statement σ scope))
    (done : ¬ (n.statement σ scope).Aborts) :
    RecordsMore block (n.statement σ scope) ((n.without (p ++ r)).statement σ scope) := by
  induction way with
  | here => exact more done
  | @inside n i c p m wraps earlier _ ih =>
    have below : p ++ r ≠ [] := fun h => deep (List.append_eq_nil_iff.1 h).2
    have form' : StatementForm.ofType (n.without (i :: (p ++ r))).type =
        StatementForm.ofType n.type := by
      rw [without_type]
    have reached' : reach? (some (c.without (p ++ r))) = reach? (some c) := c.reach_without _
    rw [List.cons_append]
    cases wraps with
    | exported wrapper first =>
      rw [statement_exported wrapper, first.child?] at done ⊢
      rw [statement_exported (form'.trans wrapper), first.child?_without below, reached']
      obtain ⟨_, reached, done⟩ := (decisive_reach? _).ok_of_bind done
      exact .bind_right reached (ih form more done)
    | ambient wrapper at_i part =>
      rw [statement_ambient wrapper] at done ⊢
      rw [statement_ambient (form'.trans wrapper)]
      obtain ⟨_, reached, done⟩ := (decisive_reachAll _).ok_of_bind done
      have legible := reachAll_eq_ok.1 reached
      rw [reachAll_of_isLegible legible, reachAll_of_isLegible (legible_without legible _)]
      refine .bind_right rfl ?_
      rw [without_namedParts at_i part below]
      rw [namedParts_eq_of_getElem? at_i part] at done ⊢
      refine recordsMore_around (collect_ok fun d hd => ?_) (ih form more) done
      exact earlier wrapper d (List.mem_filter.1 hd).1 (List.mem_filter.1 hd).2
    | expression wrapper first inner =>
      rw [statement_expression wrapper, first.firstNamed?] at done ⊢
      rw [statement_expression (form'.trans wrapper), first.firstNamed?_without below, reached']
      obtain ⟨_, reached, done⟩ := (decisive_reach? _).ok_of_bind done
      simp only [without_type, if_pos inner] at done ⊢
      exact .bind_right reached (ih form more done)

/-- The scans of a body with and without a statement that is left out. -/
theorem Scans.recordsMore {b b' s : Node} {k : Nat} {names : List String} {e : Fault} {line : Nat}
    (way : Scans (Succeeds σ) scope b p names b') (at_k : b'.children[k]? = some s)
    (part : s.isNamedPart = true)
    (failed : (s.statement σ (scope.within names)).result = .error e)
    (recoverable : e.line? = some line)
    (done : ¬ (collect (scanned σ scope) b.namedParts).Aborts) :
    RecordsMore ((s.statement σ (scope.within names)).rejections ++ [s.rejection e line])
      (collect (scanned σ scope) b.namedParts)
      (collect (scanned σ scope) (b.without (p ++ [k])).namedParts) := by
  -- the statements before the one on the way or at its end are scanned, as nothing aborts
  have scannedFirst {scope : Scope} {before after : List Node}
      (done : ¬ (collect (scanned σ scope) (before ++ after)).Aborts) :
      ∃ ds, (collect (scanned σ scope) before).result = .ok ds := by
    rw [collect_append] at done
    exact (Decisive.collect decisive_scanned before).ok fun aborts => done aborts.bind
  induction way with
  | @here scope b =>
    rw [List.nil_append, without_namedParts_self]
    rw [namedParts_eq_of_getElem? at_k part] at done ⊢
    have first := scannedFirst done
    have doneHere : ¬ (s.scanned σ scope).Aborts := by
      intro aborts
      obtain ⟨ds, hds⟩ := first
      rw [collect_append, aborts_of_bind hds, collect_cons] at done
      exact done aborts.bind.bind
    obtain ⟨result, recorded⟩ := scanned_of_error failed recoverable doneHere
    rw [← recorded]
    exact recordsMore_omitting first result
  | @inside scope b j c q n name i body p names b' at_j part' steps inner _ ih =>
    have deep : p ++ [k] ≠ [] := List.append_ne_nil_of_right_ne_nil p (List.cons_ne_nil k [])
    have below : q ++ i :: (p ++ [k]) ≠ [] :=
      List.append_ne_nil_of_right_ne_nil q (List.cons_ne_nil i _)
    rw [List.cons_append, List.append_assoc, List.cons_append, without_namedParts at_j part' below]
    rw [namedParts_eq_of_getElem? at_j part'] at done ⊢
    refine recordsMore_around (scannedFirst done) (recordsMore_scanned ?_ ?_) done
    · exact steps.declaredTexts_without (List.cons_ne_nil i _) (inner.declaredTexts_without deep)
    · exact steps.recordsMore (List.cons_ne_nil i _) inner.form
        (inner.recordsMore deep (ih at_k failed))

end Node

/-! ## Files without a rejected statement -/

/-- **Isolation.** Take out a statement of a file or of a namespace in it that was left out because
of a fault: the declarations stay the same, and of the rejections one block is missing, which was
recorded while the statement was translated and ends with its own entry. -/
theorem translate_without_rejected {σ : Settings} {path : String} {root body s : Node}
    {file : TranslatedFile} {p : List Nat} {names : List String} {k : Nat} {e : Fault} {line : Nat}
    (done : translate σ path root = .ok file)
    (way : Node.Scans (Node.Succeeds σ) { path := path } root p names body)
    (at_k : body.children[k]? = some s) (part : s.isNamedPart = true)
    (failed : (s.statement σ (Scope.within { path := path } names)).result = .error e)
    (recoverable : e.line? = some line) :
    ∃ before after,
      file.rejections = before ++
        ((s.statement σ (Scope.within { path := path } names)).rejections ++
          [s.rejection e line]) ++ after ∧
      translate σ path (root.without (p ++ [k])) =
        .ok { file with rejections := before ++ after } := by
  obtain ⟨scan, filePath, recorded⟩ := translate_eq_ok.1 done
  rw [Node.scanFile_eq] at scan recorded
  obtain ⟨_, reachedRoot, scan⟩ := result_bind_eq_ok.1 scan
  obtain ⟨_, reachedParts, scan⟩ := result_bind_eq_ok.1 scan
  have legible := reachAll_eq_ok.1 reachedParts
  have legibleRoot := isLegible_of_reach reachedRoot
  have more := way.recordsMore at_k part failed recoverable (not_aborts_of_ok scan)
  obtain ⟨result, before, after, more, less⟩ := more
  rw [reach_of_isLegible legibleRoot, reachAll_of_isLegible legible, pure_bind, pure_bind]
    at recorded
  refine ⟨before, after, recorded.trans more, translate_eq_ok.2 ?_⟩
  rw [Node.scanFile_eq, Node.reach_without, reach_of_isLegible legibleRoot, pure_bind,
    reachAll_of_isLegible (Node.legible_without legible _), pure_bind]
  exact ⟨result.symm.trans scan, filePath, less.symm⟩

namespace Node

/-- `function g(...a: b)`, where `b` is no array type. -/
def restOfNoArray : Node :=
  branch "function_signature" "function g(...a: b)" [] [
    token "function",
    leaf "identifier" "g" [.name],
    branch "formal_parameters" "(...a: b)" [.parameters] [
      token "(",
      branch "required_parameter" "...a: b" [] [
        branch "rest_pattern" "...a" [.pattern] [token "...", leaf "identifier" "a" []],
        branch "type_annotation" ": b" [.type] [token ":", leaf "type_identifier" "b" []]],
      token ")"]]

theorem statement_restOfNoArray (scope : Scope) :
    restOfNoArray.statement {} scope = fail (.restShape "required_parameter" 1) :=
  statement_plain rfl

theorem rejection_restOfNoArray :
    restOfNoArray.rejection (.restShape "required_parameter" 1) 1 = {
      name := some "g"
      nodeType := "function_signature"
      line := 1
      error := "rest parameter must be an array type" } := by
  rw [rejection, declaredText?, declaredName?_eq]
  rfl

theorem scanned_restOfNoArray (scope : Scope) :
    restOfNoArray.scanned {} scope = (do
      note (.rejected scope.path scope.qualifier "function_signature" 1
        "rest parameter must be an array type")
      reject (restOfNoArray.rejection (.restShape "required_parameter" 1) 1)
      pure []) := by
  rw [scanned, isolated, statement_restOfNoArray, rescue_line rfl rfl, rejectStatement,
    rejection, declaredText?, declaredName?_eq]
  rfl

/-- `declare namespace N { ; function g(...a: b) }` -/
def rejectedInNamespace : Node :=
  branch "program" "declare" [] [
    ambientModule "N" [leaf "empty_statement" ";" [], restOfNoArray]]

/-- The file that `rejectedInNamespace` is translated to. -/
def rejectedInNamespaceFile : TranslatedFile where
  path := "n.d.ts"
  declarations := [{ kind := .nameSpace, name := "N", line := 1 }]
  rejections := [{
    name := "g"
    nodeType := "function_signature"
    line := 1
    error := "rest parameter must be an array type" }]

theorem translate_rejectedInNamespace :
    translate {} "n.d.ts" rejectedInNamespace = .ok rejectedInNamespaceFile := by
  obtain ⟨log, scan⟩ : ∃ log, rejectedInNamespace.scanFile {} "n.d.ts" =
      ⟨log, rejectedInNamespaceFile.rejections, .ok rejectedInNamespaceFile.declarations⟩ := by
    rw [scanFile_eq, show rejectedInNamespace.namedParts = [ambientModule "N" _] from rfl,
      collect_singleton, scanned, isolated, statement_ambientModule "N" (by decide) (by decide),
      collect_cons, collect_singleton, scanned_restOfNoArray, rejection_restOfNoArray, scanned,
      isolated, statement_other rfl]
    exact ⟨_, rfl⟩
  rw [translate_eq_ok, scan]
  exact ⟨rfl, rfl, rfl⟩

theorem scans_rejectedInNamespace (passes : Scope → Node → Prop) (scope : Scope) :
    Scans passes scope rejectedInNamespace [0, 1, 2] ["N"]
      (bodyOf [leaf "empty_statement" ";" [], restOfNoArray]) := by
  refine .inside (q := [1]) rfl rfl (.inside (.ambient rfl rfl rfl) ?_ .here)
    (isNamespace_moduleOf "N" _) .here
  intro _ d hd part
  cases List.mem_singleton.1 hd
  cases part

theorem translate_without_restOfNoArray : ∃ file,
    translate {} "n.d.ts" rejectedInNamespace = .ok file ∧ ∃ before after,
      file.rejections = before ++
        ((restOfNoArray.statement {} (Scope.within { path := "n.d.ts" } ["N"])).rejections ++
          [restOfNoArray.rejection (.restShape "required_parameter" 1) 1]) ++ after ∧
      translate {} "n.d.ts" (rejectedInNamespace.without [0, 1, 2, 2]) =
        .ok { file with rejections := before ++ after } := by
  have failed : (restOfNoArray.statement {} (Scope.within { path := "n.d.ts" } ["N"])).result =
      .error (.restShape "required_parameter" 1) := by
    rw [statement_restOfNoArray]
    rfl
  exact ⟨_, translate_rejectedInNamespace,
    translate_without_rejected translate_rejectedInNamespace (scans_rejectedInNamespace _ _) rfl rfl
      failed rfl⟩

end Node

end KotlinStubs
