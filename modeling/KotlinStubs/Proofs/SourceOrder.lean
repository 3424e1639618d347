import Mathlib.Data.List.Flatten
import Mathlib.Data.List.ReduceOption
import KotlinStubs.Proofs.Faults
import KotlinStubs.Proofs.Reach

/-!
# Source order

In a tree whose nodes start in preorder one after the other, the lines of the nodes ascend
(`Node.lines_pairwise`).  What a statement gives stands, at every depth, at lines of its nodes, in
preorder, and so do the parts for which something is left out (`Translation.Follows`).  Nested
namespaces are listed after the one that holds them, which only omits them between its members.

* `lineOf_mono`: lines ascend with the offsets.
* `follow_namespaceOf`: the namespaces made from what follows the lines of a body.
* `Follows.bind`, `Follows.collect`, `Node.scanned_follows`: composite translations.
* `Node.statement_follows`: statements.
* `translate_inOrder`: files.
-/

namespace KotlinStubs

open Translation

/-! ## Lines -/

theorem toList_loop (bytes : ByteArray) (i : Nat) (read : List UInt8) :
    ByteArray.toList.loop bytes i read = read.reverse ++ bytes.data.toList.drop i := by
  fun_induction ByteArray.toList.loop bytes i read with
  | case1 i read inside ih =>
    have inside : i < bytes.data.toList.length := inside
    have byte : bytes.get! i = bytes.data.toList[i] := by
      cases bytes
      exact getElem!_pos _ i inside
    rw [ih, List.reverse_cons, List.append_assoc, List.drop_eq_getElem_cons inside, byte,
      List.singleton_append]
  | case2 i read outside =>
    have outside : bytes.data.toList.length ≤ i := Nat.le_of_not_lt outside
    rw [List.drop_eq_nil_of_le outside, List.append_nil]

theorem toList_eq_data_toList (bytes : ByteArray) : bytes.toList = bytes.data.toList :=
  toList_loop bytes 0 []

theorem lineOf_mono (bytes : ByteArray) {i j : Nat} (h : i ≤ j) :
    lineOf bytes i ≤ lineOf bytes j := by
  have split := ByteArray.extract_eq_extract_append_extract (a := bytes) i (Nat.zero_le i) h
  unfold lineOf
  rw [toList_eq_data_toList, toList_eq_data_toList, split, ByteArray.toList_data_append,
    List.count_append]
  omega

namespace Node

/-- The lines of the nodes of a tree, in preorder. -/
def lines (n : Node) : List Nat := n.preorder.map (·.line)

theorem preorderAll_eq (ns : List Node) : preorderAll ns = ns.flatMap preorder := by
  induction ns with
  | nil => rfl
  | cons n ns ih => rw [preorderAll, ih, List.flatMap_cons]

theorem lines_eq (n : Node) : n.lines = n.line :: n.children.flatMap lines := by
  cases n
  rw [lines, preorder, preorderAll_eq, List.map_cons, List.map_flatMap]
  rfl

end Node

/-- Each node of a tree that is built from rows has the line of its first byte. -/
theorem Row.line_of_nodes {bytes : ByteArray} {rows : List Row} {number : Nat} {m : Node}
    (h : ∃ entry ∈ Row.nodes bytes number rows, m ∈ entry.2.preorder) :
    m.line = lineOf bytes m.start := by
  induction rows generalizing number with
  | nil =>
    obtain ⟨entry, absent, -⟩ := h
    cases absent
  | cons r rows ih =>
    obtain ⟨entry, member, below⟩ := h
    rcases List.mem_cons.1 member with rfl | later
    · rcases List.mem_cons.1 below with rfl | below
      · rfl
      · rw [Node.preorderAll_eq] at below
        obtain ⟨c, child, below⟩ := List.mem_flatMap.1 below
        obtain ⟨entry, later, rfl⟩ := List.mem_map.1 child
        exact ih ⟨entry, (List.mem_filter.1 later).1, below⟩
    · exact ih ⟨entry, (List.mem_filter.1 later).1, below⟩

/-- In a tree whose nodes start in preorder one after the other, the lines ascend. -/
theorem Node.lines_pairwise {bytes : ByteArray} {rows : List Row} {root : Node}
    (tree : ofRows? bytes rows = some root) (order : root.preorder.Pairwise (·.start ≤ ·.start)) :
    root.lines.Pairwise (· ≤ ·) := by
  obtain ⟨entry, first, rfl⟩ := Option.map_eq_some_iff.1 tree
  have line {m : Node} (hm : m ∈ entry.2.preorder) : m.line = lineOf bytes m.start :=
    Row.line_of_nodes ⟨entry, List.mem_of_mem_head? first, hm⟩
  refine List.pairwise_map.2 (order.imp_of_mem fun ha hb h => ?_)
  rw [line ha, line hb]
  exact lineOf_mono bytes h

/-! ## Declarations along lines -/

/-- The members of a declaration stand at lines that ascend, from its own line on, and so do theirs,
at every depth. -/
inductive Declaration.InOrder : Declaration → Prop
  | intro {d : Declaration} :
      (∀ m ∈ d.members, d.line ≤ m.line) →
      d.members.Pairwise (·.line ≤ ·.line) →
      (∀ m ∈ d.members, m.InOrder) →
      d.InOrder

/-- A declaration and its members, at every depth, stand at some of the lines, in their order. -/
inductive Declaration.Follows (lines : List Nat) : Declaration → Prop
  | intro {d : Declaration} :
      (d.line :: d.members.map (·.line)).Sublist lines →
      (∀ m ∈ d.members, m.Follows lines) →
      d.Follows lines

theorem Declaration.Follows.mono {lines lines' : List Nat} {d : Declaration}
    (h : d.Follows lines) (le : lines.Sublist lines') : d.Follows lines' := by
  induction h with
  | intro own _ ih => exact .intro (own.trans le) ih

theorem Declaration.Follows.inOrder {lines : List Nat} {d : Declaration} (h : d.Follows lines)
    (ascending : lines.Pairwise (· ≤ ·)) : d.InOrder := by
  induction h with
  | intro own _ ih =>
    obtain ⟨first, others⟩ := List.pairwise_cons.1 (ascending.sublist own)
    exact .intro (fun m hm => first _ (List.mem_map_of_mem hm)) (List.pairwise_map.1 others) ih

/-- Declarations stand at some of the lines, in their order, and so do their members. -/
structure Follow (lines : List Nat) (ds : List Declaration) : Prop where
  order : (ds.map (·.line)).Sublist lines
  each : ∀ d ∈ ds, d.Follows lines

section

variable {lines lines' : List Nat} {ds ds' : List Declaration}

theorem Follow.mono (h : Follow lines ds) (le : lines.Sublist lines') : Follow lines' ds :=
  ⟨h.order.trans le, fun d hd => (h.each d hd).mono le⟩

theorem follow_nil : Follow lines [] :=
  ⟨List.nil_sublist _, fun _ hd => absurd hd List.not_mem_nil⟩

theorem Follow.append (h : Follow lines ds) (h' : Follow lines' ds') :
    Follow (lines ++ lines') (ds ++ ds') := by
  refine ⟨?_, fun d hd => ?_⟩
  · rw [List.map_append]
    exact h.order.append h'.order
  · rcases List.mem_append.1 hd with hd | hd
    · exact (h.each d hd).mono (List.sublist_append_left _ _)
    · exact (h'.each d hd).mono (List.sublist_append_right _ _)

/-- A declaration comes before its members. -/
theorem follow_singleton {d : Declaration} (members : Follow lines d.members) :
    Follow (d.line :: lines) [d] := by
  refine ⟨(List.nil_sublist _).cons_cons _, fun e he => ?_⟩
  cases List.mem_singleton.1 he
  exact .intro (members.order.cons_cons _) fun m hm =>
    (members.each m hm).mono (List.sublist_cons_self _ _)

/-- The namespaces made from declarations that follow lines. -/
theorem follow_namespaceOf (name : String) (line : Nat) (h : Follow lines ds) :
    Follow (line :: lines) (Node.namespaceOf name line ds) := by
  have kept (p : Declaration → Bool) : Follow lines (ds.filter p) :=
    ⟨(List.filter_sublist.map _).trans h.order, fun d hd => h.each d (List.mem_filter.1 hd).1⟩
  -- members and nested namespaces are both taken from the one list, each in its order
  have outer := follow_singleton (d := {
    kind := .nameSpace, name := name, line := line, members := ds.filter (·.kind != .nameSpace) })
    (kept _)
  refine ⟨(kept _).order.cons_cons _, List.forall_mem_cons.2 ⟨?_, fun d hd => ?_⟩⟩
  · exact outer.each _ List.mem_cons_self
  · exact ((kept _).each d hd).mono (List.sublist_cons_self _ _)

/-! ## Composite translations -/

namespace Translation

variable {α β : Type}

/-- The lines of the rejections that a translation records and, if it ends with a fault that costs
one statement only, of this fault. -/
def faultLines (x : Translation α) : List Nat :=
  x.rejections.map (·.line) ++ match x.result with
    | .ok _ => []
    | .error e => e.line?.toList

theorem faultLines_ok {x : Translation α} {a : α} (h : x.result = .ok a) :
    x.faultLines = x.rejections.map (·.line) := by
  rw [faultLines, h]
  exact List.append_nil _

theorem faultLines_line {x : Translation α} {e : Fault} {line : Nat} (h : x.result = .error e)
    (hl : e.line? = some line) : x.faultLines = x.rejections.map (·.line) ++ [line] := by
  rw [faultLines, h]
  exact congrArg (fun line? => _ ++ Option.toList line?) hl

theorem faultLines_after (x : Translation α) (y : Translation β) :
    (x.after y).faultLines = x.rejections.map (·.line) ++ y.faultLines := by
  unfold faultLines after
  rw [List.map_append, List.append_assoc]

theorem faultLines_bind {x : Translation α} {f : α → Translation β}
    (hx : x.faultLines.Sublist lines) (hf : ∀ a, (f a).faultLines.Sublist lines') :
    (x >>= f).faultLines.Sublist (lines ++ lines') := by
  cases h : x.result with
  | ok a =>
    rw [bind_ok h, faultLines_after, ← faultLines_ok h]
    exact hx.append (hf a)
  | error e =>
    have same : (x >>= f).faultLines = x.faultLines := by
      rw [bind_error h, faultLines, faultLines, h]
    rw [same]
    exact hx.trans (List.sublist_append_left _ _)

theorem faultLines_map (f : α → β) (x : Translation α) :
    (do let a ← x; pure (f a)).faultLines = x.faultLines := by
  cases h : x.result with
  | ok a => rw [faultLines_ok (result_bind_eq_ok.2 ⟨a, h, rfl⟩), faultLines_ok h,
      rejections_bind_ok h, rejections_pure, List.append_nil]
  | error e => rw [bind_error h, faultLines, faultLines, h]

theorem Silent.faultLines {x : Translation α} (silent : x.Silent) (decisive : x.Decisive) :
    x.faultLines.Sublist [] := by
  rw [Translation.faultLines, silent]
  cases h : x.result with
  | ok a => exact .slnil
  | error e =>
    have nothing : e.line?.toList = [] := congrArg Option.toList (decisive.line?_eq_none h)
    exact nothing ▸ .slnil

/-- What a translation gives stands at some of the lines, in their order, and so do the parts for
which something is left out. -/
structure Follows (lines : List Nat) (x : Translation (List Declaration)) : Prop where
  faults : x.faultLines.Sublist lines
  given : x.Gives (Follow lines)

theorem follows_nil : (pure [] : Translation (List Declaration)).Follows lines :=
  ⟨List.nil_sublist _, gives_pure follow_nil⟩

theorem Follows.mono {x : Translation (List Declaration)} (h : x.Follows lines)
    (le : lines.Sublist lines') : x.Follows lines' :=
  ⟨h.faults.trans le, h.given.imp fun _ given => given.mono le⟩

/-- After something that records no rejection and never costs one statement only. -/
theorem Follows.bind {x : Translation α} {f : α → Translation (List Declaration)}
    (silent : x.Silent) (decisive : x.Decisive) (hf : ∀ a, (f a).Follows lines) :
    (x >>= f).Follows lines :=
  ⟨faultLines_bind (silent.faultLines decisive) fun a => (hf a).faults,
    gives_bind fun a => (hf a).given⟩

/-- Before something is made of what is given. -/
theorem Follows.map {x : Translation (List Declaration)} (h : x.Follows lines)
    {f : List Declaration → List Declaration} (le : lines.Sublist lines')
    (hf : ∀ ds, Follow lines ds → Follow lines' (f ds)) :
    (do let ds ← x; pure (f ds)).Follows lines' := by
  refine ⟨?_, h.given.bind fun ds hds => gives_pure (hf ds hds)⟩
  rw [faultLines_map]
  exact h.faults.trans le

theorem follow_collect {f : α → Translation (List Declaration)} {linesOf : α → List Nat}
    {as : List α} (h : ∀ a ∈ as, (f a).Gives (Follow (linesOf a))) :
    (collect f as).Gives (Follow (as.flatMap linesOf)) := by
  induction as with
  | nil => exact gives_pure follow_nil
  | cons a as ih =>
    rw [collect_cons, List.flatMap_cons]
    refine (h a List.mem_cons_self).bind fun ds hds => ?_
    refine (ih fun b hb => h b (List.mem_cons_of_mem a hb)).bind fun ds' hds' => ?_
    exact gives_pure (hds.append hds')

theorem faultLines_collect {f : α → Translation (List β)} {linesOf : α → List Nat}
    {as : List α} (h : ∀ a ∈ as, (f a).faultLines.Sublist (linesOf a)) :
    (collect f as).faultLines.Sublist (as.flatMap linesOf) := by
  induction as with
  | nil => exact List.nil_sublist _
  | cons a as ih =>
    have others := ih fun b hb => h b (List.mem_cons_of_mem a hb)
    rw [collect_cons, List.flatMap_cons]
    refine faultLines_bind (h a List.mem_cons_self) fun bs => ?_
    rw [faultLines_map]
    exact others

theorem Follows.collect {f : α → Translation (List Declaration)} {linesOf : α → List Nat}
    {as : List α} (h : ∀ a ∈ as, (f a).Follows (linesOf a)) :
    (collect f as).Follows (as.flatMap linesOf) :=
  ⟨faultLines_collect fun a ha => (h a ha).faults, follow_collect fun a ha => (h a ha).given⟩

end Translation

end

namespace Node

variable {σ : Settings} {scope : Scope}

/-! ## Statements that are left out -/

theorem faultLines_rejectStatement (n : Node) (e : Fault) (line : Nat) :
    (n.rejectStatement scope e line).faultLines.Sublist [line] := by
  have name := n.silent_declaredName?.faultLines n.decisive_declaredName?
  have text (name? : Option Node) := (silent_nameText? name?).faultLines (decisive_nameText? name?)
  unfold rejectStatement
  refine faultLines_bind name fun name? => ?_
  refine faultLines_bind ((silent_note _).faultLines (decisive_note _)) fun _ => ?_
  exact faultLines_bind (text name?) fun _ => List.Sublist.refl _

/-- A statement that is left out is recorded at the line of the fault that costs it. -/
theorem scanned_follows {lines : List Nat} {n : Node} (h : (n.statement σ scope).Follows lines) :
    (n.scanned σ scope).Follows lines := by
  refine ⟨?_, h.given.rescue fun e line => ?_⟩
  · rcases (n.statement σ scope).ok_or_aborts_or_line with ⟨ds, hds⟩ | aborts | ⟨e, line, he, hl⟩
    · rw [scanned, isolated, rescue_ok hds]
      exact h.faults
    · rw [scanned, isolated, rescue_aborts aborts]
      exact h.faults
    · rw [scanned, isolated, rescue_line he hl, faultLines_after]
      have faults := h.faults
      rw [faultLines_line he hl] at faults
      exact ((n.faultLines_rejectStatement e line).append_left _).trans faults
  · unfold rejectStatement
    exact gives_bind fun _ => gives_bind fun _ => gives_bind fun _ => gives_bind fun _ =>
      gives_pure follow_nil

/-! ## Members -/

/-- A declaration stands at a line and has no members. -/
structure IsAt (line : Nat) (d : Declaration) : Prop where
  line : d.line = line
  members : d.members = []

theorem IsAt.follow {line : Nat} {d : Declaration} (h : IsAt line d) : Follow [line] [d] := by
  have nothing : Follow [] d.members := by
    rw [h.members]
    exact follow_nil
  rw [← h.line]
  exact follow_singleton nothing

/-- What a member declares, if anything, stands at the line of the member. -/
abbrev DeclaresAt (line : Nat) (x : Translation (Option Declaration)) : Prop :=
  x.Gives fun d? => ∀ d ∈ d?, IsAt line d

theorem declaresAt_some {line : Nat} {x : Translation Declaration} (h : x.Gives (IsAt line)) :
    DeclaresAt line (some <$> x) :=
  h.map fun _ hd _ he => Option.some.inj he ▸ hd

theorem declaresAt_none (line : Nat) : DeclaresAt line (pure none) :=
  gives_pure fun _ hd => by cases hd

theorem method_isAt (n name : Node) : (n.method σ name).Gives (IsAt n.line) := by
  unfold method
  refine gives_bind fun _ => gives_bind fun _ => gives_bind fun _ => ?_
  split
  · exact gives_bind fun _ => gives_pure ⟨rfl, rfl⟩
  · exact gives_pure ⟨rfl, rfl⟩

theorem property_isAt (n name : Node) : (n.property σ name).Gives (IsAt n.line) := by
  unfold property
  exact gives_bind fun _ => gives_bind fun _ => gives_bind fun _ => gives_pure ⟨rfl, rfl⟩

theorem interfaceMember_declaresAt (n : Node) : DeclaresAt n.line (n.interfaceMember σ) := by
  unfold interfaceMember
  refine gives_bind fun _ => ?_
  split
  · exact declaresAt_some (n.method_isAt _)
  · exact declaresAt_some (n.property_isAt _)
  · exact gives_bind fun _ => declaresAt_none _

/-- A member of a class stands at the line of the child that declares it. -/
theorem classMember_declaresAt (n : Node) : DeclaresAt n.line (n.classMember σ) := by
  unfold classMember
  refine gives_bind fun _ => gives_bind fun _ => ?_
  split
  · exact gives_bind fun _ => declaresAt_none _
  · refine gives_bind fun text => ?_
    split
    · exact gives_bind fun _ => declaresAt_none _
    · unfold namedClassMember
      refine gives_bind fun hidden => ?_
      split
      · exact gives_bind fun _ => gives_bind fun _ => declaresAt_none _
      · split
        · exact declaresAt_some (n.method_isAt _)
        · exact declaresAt_some (n.property_isAt _)
        · exact gives_bind fun _ => declaresAt_none _

theorem follow_members {member : Node → Translation (Option Declaration)}
    (h : ∀ m, DeclaresAt m.line (member m)) (ms : List Node) :
    (ms.mapM member).Gives fun ds => Follow (ms.map (·.line)) ds.reduceOption := by
  induction ms with
  | nil => exact gives_pure follow_nil
  | cons m ms ih =>
    rw [List.mapM_cons]
    refine (h m).bind fun d? hd? => ih.bind fun ds hds => gives_pure ?_
    cases d? with
    | none => exact hds.mono (List.sublist_cons_self _ _)
    | some d => exact (hd? d rfl).follow.append hds

/-! ## Statements -/

theorem namedParts_sublist (n : Node) : n.namedParts.Sublist n.children :=
  List.filter_sublist.trans List.filter_sublist

/-- The lines of a node come before those of its children. -/
theorem lines_of_children {n : Node} {ns : List Node} (h : ns.Sublist n.children) :
    (n.line :: ns.flatMap lines).Sublist n.lines := by
  rw [lines_eq]
  exact (h.flatMap _).cons_cons _

theorem flatMap_lines_sublist {n : Node} {ns : List Node} (h : ns.Sublist n.children) :
    (ns.flatMap lines).Sublist n.lines :=
  List.sublist_of_cons_sublist (lines_of_children h)

theorem lines_of_child {n c : Node} (h : c ∈ n.children) : (n.line :: c.lines).Sublist n.lines := by
  have single := lines_of_children (List.singleton_sublist.2 h)
  rwa [List.flatMap_singleton] at single

theorem line_mem_lines (n : Node) : n.line ∈ n.lines :=
  List.mem_map_of_mem n.mem_preorder_self

theorem map_line_sublist (ns : List Node) : (ns.map (·.line)).Sublist (ns.flatMap lines) := by
  rw [List.map_eq_flatMap]
  exact List.Sublist.flatMap_right ns fun n _ => List.singleton_sublist.2 n.line_mem_lines

/-- A declaration without members that stands at the line of a node. -/
theorem IsAt.follow_lines {n : Node} {d : Declaration} (h : IsAt n.line d) : Follow n.lines [d] :=
  h.follow.mono (List.singleton_sublist.2 n.line_mem_lines)

theorem functionStatement_follow (n : Node) :
    (n.functionStatement σ).Gives (Follow n.lines) := by
  unfold functionStatement
  refine gives_bind fun _ => ?_
  split
  · exact gives_pure follow_nil
  · exact gives_bind fun _ => gives_bind fun _ => gives_pure (IsAt.follow_lines ⟨rfl, rfl⟩)

theorem declarator_follow (isVar : Bool) (n : Node) :
    (n.declarator σ isVar).Gives (Follow n.lines) := by
  unfold declarator
  split
  · refine gives_bind fun _ => ?_
    split
    · exact gives_pure follow_nil
    · exact gives_bind fun _ => gives_bind fun _ => gives_pure (IsAt.follow_lines ⟨rfl, rfl⟩)
  · exact gives_fail _

/-- The members of an interface or class follow lines that come after its own. -/
theorem bodyMembers_follow {member : Node → Translation (Option Declaration)} (n : Node)
    (hmember : ∀ m, DeclaresAt m.line (member m)) :
    (n.bodyMembers member).Gives fun ds =>
      ∃ lines, Follow lines ds.reduceOption ∧ (n.line :: lines).Sublist n.lines := by
  unfold bodyMembers
  split
  · next body found =>
    have inBody := (map_line_sublist _).trans (flatMap_lines_sublist body.namedParts_sublist)
    refine gives_bind fun _ => (follow_members hmember _).imp fun ds hds => ?_
    exact ⟨body.lines, hds.mono inBody, lines_of_child (mem_children_of_child? found)⟩
  · exact gives_pure ⟨[], follow_nil, List.singleton_sublist.2 n.line_mem_lines⟩

theorem containerStatement_follow {kind : DeclarationKind}
    {member : Node → Translation (Option Declaration)} (n : Node)
    (hmember : ∀ m, DeclaresAt m.line (member m)) :
    (n.containerStatement σ kind member).Gives (Follow n.lines) := by
  unfold containerStatement
  refine gives_bind fun _ => ?_
  split
  · exact gives_pure follow_nil
  · refine gives_bind fun _ => gives_bind fun _ => ?_
    refine (n.bodyMembers_follow hmember).bind fun ds ⟨lines, members, inTree⟩ => ?_
    refine gives_bind fun _ => gives_bind fun _ => gives_pure ?_
    exact Follow.mono (follow_singleton members) inTree

theorem plainStatement_follow {n : Node} {x : Translation (List Declaration)}
    (h : n.plainStatement? σ = some x) : x.Gives (Follow n.lines) := by
  unfold plainStatement? at h
  split at h <;> cases h
  · exact n.functionStatement_follow
  · rw [variablesStatement_eq]
    refine gives_bind fun _ => ?_
    have inTree := flatMap_lines_sublist (n.payloads_sublist declaratorDelimiters)
    exact (follow_collect fun d _ => d.declarator_follow _).imp fun _ hds => hds.mono inTree
  · exact n.containerStatement_follow interfaceMember_declaresAt
  · exact n.containerStatement_follow classMember_declaresAt

/-- A statement that holds no others records nothing, and a fault that costs it alone stands at the
line of a parameter in it. -/
theorem faultLines_plainStatement {n : Node} {x : Translation (List Declaration)}
    (h : n.plainStatement? σ = some x) : x.faultLines.Sublist n.lines := by
  have sound := sound_plainStatement n.mem_preorder_self h
  rw [faultLines, sound.silent]
  cases hx : x.result with
  | ok ds => exact List.nil_sublist _
  | error e =>
    cases sound.fault e hx with
    | restShape holds _ _ _ => exact List.singleton_sublist.2 (List.mem_map_of_mem holds.mem)
    | arrayArity | wrongEntry | undecodable => exact List.nil_sublist _

theorem follows_remark {lines : List Nat} (e : Event) :
    (do note e; pure [] : Translation (List Declaration)).Follows lines :=
  .bind (silent_note e) (decisive_note e) fun _ => follows_nil

/-- What a namespace gives and leaves out follows its lines, if what its statements do follows
theirs. -/
theorem namespaceStatement_follows {n : Node}
    (ih : ∀ m : Node, sizeOf m < sizeOf n → ∀ scope, (m.statement σ scope).Follows m.lines) :
    (n.namespaceStatement σ scope).Follows n.lines := by
  rw [namespaceStatement_eq]
  refine .bind (silent_reach? _) (decisive_reach? _) fun _ => ?_
  refine .bind (silent_reach? _) (decisive_reach? _) fun _ => ?_
  split
  · next name body _ found =>
    split
    · exact .bind (silent_read _) (decisive_read _) fun _ => follows_remark _
    · refine .bind (silent_read _) (decisive_read _) fun text => ?_
      refine .bind (silent_reachAll _) (decisive_reachAll _) fun _ => ?_
      have inner : (collect (scanned σ (scope.enter text)) body.namedParts).Follows body.lines := by
        refine Follows.mono (.collect fun m hm => scanned_follows (ih m ?_ _))
          (flatMap_lines_sublist body.namedParts_sublist)
        exact Nat.lt_trans (sizeOf_lt_of_mem_namedParts hm) (sizeOf_lt_of_child? found)
      -- the namespace itself stands at the line of `n`, before all lines of the body
      have inTree := lines_of_child (mem_children_of_child? found)
      exact inner.map (List.sublist_of_cons_sublist inTree) fun ds hds =>
        (follow_namespaceOf _ n.line hds).mono inTree
  · exact follows_nil

/-- What a statement gives stands at lines of its nodes, in preorder, and so do the parts for which
something in it is left out. -/
theorem statement_follows (n : Node) (scope : Scope) :
    (n.statement σ scope).Follows n.lines := by
  induction n using sizeInduction generalizing scope with
  | step n ih =>
    have within {c : Node} (hc : c ∈ n.children) (scope : Scope) :
        (c.statement σ scope).Follows n.lines :=
      (ih c (sizeOf_lt_of_mem_children hc) scope).mono
        (List.sublist_of_cons_sublist (lines_of_child hc))
    cases form : StatementForm.ofType n.type with
    | exported =>
      rw [statement_exported form]
      refine .bind (silent_reach? _) (decisive_reach? _) fun _ => ?_
      split
      · next inner found => exact within (mem_children_of_child? found) scope
      · exact follows_remark _
    | ambient =>
      rw [statement_ambient form]
      refine .bind (silent_reachAll _) (decisive_reachAll _) fun _ => ?_
      have parts := Follows.collect fun c hc => ih c (sizeOf_lt_of_mem_namedParts hc) scope
      exact parts.mono (flatMap_lines_sublist n.namedParts_sublist)
    | expression =>
      rw [statement_expression form]
      refine .bind (silent_reach? _) (decisive_reach? _) fun _ => ?_
      split
      · next inner found =>
        split
        · exact within (mem_children_of_firstNamed? found) scope
        · exact follows_remark _
      · exact follows_remark _
    | function | declarators | interfaceBlock | classBlock =>
      obtain ⟨x, plain⟩ := exists_plainStatement σ (n := n) (by rw [form]; decide)
      rw [statement_plain plain]
      exact ⟨faultLines_plainStatement plain, plainStatement_follow plain⟩
    | namespaceBlock =>
      rw [statement_namespace form]
      exact namespaceStatement_follows ih
    | other =>
      rw [statement_other form]
      exact .bind (silent_read _) (decisive_read _) fun _ => follows_remark _

theorem scanFile_follows (path : String) (root : Node) :
    (root.scanFile σ path).Follows root.lines := by
  rw [scanFile_eq]
  refine .bind (silent_reach _) (decisive_reach _) fun _ => ?_
  refine .bind (silent_reachAll _) (decisive_reachAll _) fun _ => ?_
  exact Follows.mono (.collect fun n _ => scanned_follows (n.statement_follows _))
    (flatMap_lines_sublist root.namedParts_sublist)

end Node

/-! ## Files -/

/-- **Source order.** In a tree whose nodes start in preorder one after the other, the declarations of
a file, the members of each, at every depth, and the rejections stand at lines that ascend, and no
member stands before what it belongs to. -/
theorem translate_inOrder {σ : Settings} {path : String} {bytes : ByteArray} {rows : List Row}
    {root : Node} {file : TranslatedFile} (tree : Node.ofRows? bytes rows = some root)
    (order : root.preorder.Pairwise (·.start ≤ ·.start))
    (done : translate σ path root = .ok file) :
    file.declarations.Pairwise (·.line ≤ ·.line) ∧
      (∀ d ∈ file.declarations, d.InOrder) ∧
      file.rejections.Pairwise (·.line ≤ ·.line) := by
  obtain ⟨scan, -, recorded⟩ := translate_eq_ok.1 done
  have ascending := Node.lines_pairwise tree order
  have follows := root.scanFile_follows (σ := σ) path
  have given := follows.given _ scan
  have faults := follows.faults
  rw [faultLines_ok scan, ← recorded] at faults
  exact ⟨List.pairwise_map.1 (ascending.sublist given.order),
    fun d hd => (given.each d hd).inOrder ascending,
    List.pairwise_map.1 (ascending.sublist faults)⟩

namespace Node

/-- A function that is rejected for its parameter on the second line, and an interface. -/
def textOfLines : String := "function g(\n...a: b)\ninterface I \x7b\np;\n\x7d"

/-- The tree of `textOfLines`. -/
def rowsOfLines : List Row := [
  ⟨"program", true, 0, 39, none, []⟩,
  ⟨"function_signature", true, 0, 20, some 0, []⟩,
  ⟨"function", false, 0, 8, some 1, []⟩,
  ⟨"identifier", true, 9, 10, some 1, [.name]⟩,
  ⟨"formal_parameters", true, 10, 20, some 1, [.parameters]⟩,
  ⟨"(", false, 10, 11, some 4, []⟩,
  ⟨"required_parameter", true, 12, 19, some 4, []⟩,
  ⟨"rest_pattern", true, 12, 16, some 6, [.pattern]⟩,
  ⟨"...", false, 12, 15, some 7, []⟩,
  ⟨"identifier", true, 15, 16, some 7, []⟩,
  ⟨"type_annotation", true, 16, 19, some 6, [.type]⟩,
  ⟨":", false, 16, 17, some 10, []⟩,
  ⟨"type_identifier", true, 18, 19, some 10, []⟩,
  ⟨")", false, 19, 20, some 4, []⟩,
  ⟨"interface_declaration", true, 21, 39, some 0, []⟩,
  ⟨"interface", false, 21, 30, some 14, []⟩,
  ⟨"type_identifier", true, 31, 32, some 14, [.name]⟩,
  ⟨"interface_body", true, 33, 39, some 14, [.body]⟩,
  ⟨"\x7b", false, 33, 34, some 17, []⟩,
  ⟨"property_signature", true, 35, 36, some 17, []⟩,
  ⟨"property_identifier", true, 35, 36, some 19, [.name]⟩,
  ⟨";", false, 36, 37, some 17, []⟩,
  ⟨"\x7d", false, 38, 39, some 17, []⟩]

/-- The tree is built from rows, so that its lines are those of the text. -/
theorem translate_inOrder_rowsOfLines : ∃ root file,
    ofRows? textOfLines.toUTF8 rowsOfLines = some root ∧
      root.preorder.Pairwise (·.start ≤ ·.start) ∧
      translate {} "o.d.ts" root = .ok file ∧
      file.declarations.Pairwise (·.line ≤ ·.line) ∧
      (∀ d ∈ file.declarations, d.InOrder) ∧
      file.rejections.Pairwise (·.line ≤ ·.line) := by
  obtain ⟨root, tree, order, ds, scan⟩ : ∃ root,
      ofRows? textOfLines.toUTF8 rowsOfLines = some root ∧
      root.preorder.Pairwise (·.start ≤ ·.start) ∧
      ∃ ds, (root.scanFile {} "o.d.ts").result = .ok ds := by
    refine ⟨_, rfl, by decide, ?_⟩
    rw [scanFile_eq, show namedParts _ = [_, _] from rfl, collect_cons, collect_singleton,
      scanned, isolated, statement_plain rfl, rescue_line rfl rfl, rejectStatement,
      declaredName?_eq, scanned, isolated, statement_plain rfl]
    exact ⟨_, rfl⟩
  have done : translate {} "o.d.ts" root = .ok ⟨"o.d.ts", ds, _⟩ :=
    translate_eq_ok.2 ⟨scan, rfl, rfl⟩
  exact ⟨root, _, tree, order, done, translate_inOrder tree order done⟩

end Node

end KotlinStubs
