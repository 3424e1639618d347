import KotlinStubs.Syntax.Rows
import KotlinStubs.Proofs.Resolution
import KotlinStubs.Proofs.StatementForms

/-!
# Reading

What is translated below a statement records no rejection and notes nothing but remarks; only the
scan of statements does.  `x.OnlyFails P` says both of a translation, and that a fault that ends it
satisfies `P`.

Most of these translations do no more than read the tree: what ends them is a text in it that cannot
be read.  `root.Reads x` says this of a translation.

* `OnlyFails.bind`, `OnlyFails.mapM`: composite translations.
* `Node.mem_of_children`: the nodes of a tree.
* `Node.reads_typeName`: the names of types, at any depth.
* `Node.reads_property`: properties; methods do more, for their parameters.
-/

namespace KotlinStubs

namespace Translation

variable {α β : Type} {P : Fault → Prop}

/-- The translation notes remarks only, records no rejection, and ends, if with a fault, with one
that satisfies `P`. -/
structure OnlyFails (P : Fault → Prop) (x : Translation α) : Prop where
  remarks : ∀ e ∈ x.log, e.level = .debug
  silent : x.Silent
  fault : ∀ e, x.result = .error e → P e

theorem OnlyFails.imp {Q : Fault → Prop} {x : Translation α} (hx : x.OnlyFails P)
    (h : ∀ e, P e → Q e) : x.OnlyFails Q :=
  ⟨hx.remarks, hx.silent, fun e failed => h e (hx.fault e failed)⟩

theorem onlyFails_pure (a : α) : (pure a : Translation α).OnlyFails P where
  remarks := fun _ he => absurd he List.not_mem_nil
  silent := silent_pure a
  fault := nofun

theorem onlyFails_fail {e : Fault} (h : P e) : (fail e : Translation α).OnlyFails P where
  remarks := fun _ he => absurd he List.not_mem_nil
  silent := silent_fail e
  fault := fun _ he => Except.error.inj he ▸ h

theorem onlyFails_note {e : Event} (h : e.level = .debug) : (note e).OnlyFails P where
  remarks := fun _ he => List.mem_singleton.1 he ▸ h
  silent := rfl
  fault := nofun

/-- A composite translation only fails if its parts do; the faults are those of both. -/
theorem OnlyFails.bind {x : Translation α} {f : α → Translation β} (hx : x.OnlyFails P)
    (hf : ∀ a, x.result = .ok a → (f a).OnlyFails P) : (x >>= f).OnlyFails P := by
  cases h : x.result with
  | error e =>
    rw [bind_error h]
    refine ⟨hx.remarks, hx.silent, ?_⟩
    rintro _ ⟨⟩
    exact hx.fault e h
  | ok a =>
    have rest := hf a h
    rw [bind_ok h]
    refine ⟨?_, ?_, rest.fault⟩
    · intro e he
      rcases List.mem_append.1 he with he | he
      · exact hx.remarks e he
      · exact rest.remarks e he
    · have first : x.rejections = [] := hx.silent
      have others : (f a).rejections = [] := rest.silent
      exact List.append_eq_nil_iff.2 ⟨first, others⟩

theorem OnlyFails.map {x : Translation α} (hx : x.OnlyFails P) (f : α → β) :
    (f <$> x).OnlyFails P := by
  rw [map_eq_pure_bind]
  exact hx.bind fun a _ => onlyFails_pure (f a)

theorem OnlyFails.mapM {f : α → Translation β} {as : List α}
    (h : ∀ a ∈ as, (f a).OnlyFails P) : (as.mapM f).OnlyFails P := by
  induction as with
  | nil => exact onlyFails_pure []
  | cons a as ih =>
    have first := h a List.mem_cons_self
    have others := ih fun b hb => h b (List.mem_cons_of_mem a hb)
    rw [List.mapM_cons]
    exact first.bind fun _ _ => others.bind fun _ _ => onlyFails_pure _

theorem OnlyFails.forM {f : α → Translation Unit} {as : List α}
    (h : ∀ a ∈ as, (f a).OnlyFails P) : (as.forM f).OnlyFails P := by
  induction as with
  | nil => exact onlyFails_pure ()
  | cons a as ih =>
    have first := h a List.mem_cons_self
    have others := ih fun b hb => h b (List.mem_cons_of_mem a hb)
    exact first.bind fun _ _ => others

end Translation

open Translation

/-- A text of the tree was asked for that cannot be read. -/
def Fault.IsUnread (root : Node) (e : Fault) : Prop :=
  e = .undecodable ∧ ∃ n ∈ root.preorder, n.text = none

namespace Node

variable {root n c : Node}

/-! ## Nodes of a tree -/

mutual

/-- The tree of a node of the tree is part of it. -/
theorem preorder_subset (root : Node) (hn : n ∈ root.preorder) : n.preorder ⊆ root.preorder := by
  rcases root with ⟨row, type, named, start, stop, line, text, fields, children⟩
  rcases List.mem_cons.1 hn with rfl | below
  · exact fun _ h => h
  · exact fun m hm => List.mem_cons_of_mem _ (preorder_subset_preorderAll children below hm)

theorem preorder_subset_preorderAll (ns : List Node) (hn : n ∈ preorderAll ns) :
    n.preorder ⊆ preorderAll ns := by
  rcases ns with _ | ⟨m, ns⟩
  · cases hn
  · rcases List.mem_append.1 hn with first | others
    · exact fun k hk => List.mem_append_left _ (preorder_subset m first hk)
    · exact fun k hk => List.mem_append_right _ (preorder_subset_preorderAll ns others hk)

end

section

variable (hn : n ∈ root.preorder)
include hn

theorem mem_of_children (hc : c ∈ n.children) : c ∈ root.preorder :=
  preorder_subset root hn (mem_preorder_of_child hc c.mem_preorder_self)

theorem mem_of_child? {f : Field} (hc : n.child? f = some c) : c ∈ root.preorder :=
  mem_of_children hn (mem_children_of_child? hc)

theorem mem_of_parts (hc : c ∈ n.parts) : c ∈ root.preorder :=
  mem_of_children hn (mem_children_of_mem_parts hc)

theorem mem_of_namedParts (hc : c ∈ n.namedParts) : c ∈ root.preorder :=
  mem_of_parts hn (mem_parts_of_mem_namedParts hc)

theorem mem_of_firstNamed? (hc : n.firstNamed? = some c) : c ∈ root.preorder :=
  mem_of_namedParts hn (mem_namedParts_of_firstNamed? hc)

theorem mem_of_entries {ds : List String} (hc : c ∈ n.entries ds) : c ∈ root.preorder :=
  mem_of_parts hn (List.mem_filter.1 hc).1

theorem mem_of_payloads {ds : List String} (hc : c ∈ n.payloads ds) : c ∈ root.preorder :=
  mem_of_entries hn ((evenPlaces_sublist _).subset hc)

theorem mem_of_declaredType? (hc : n.declaredType? = some c) : c ∈ root.preorder := by
  unfold declaredType? at hc
  split at hc
  · cases hc
  · next annotation found =>
    have inTree := mem_of_child? hn found
    split at hc
    · exact mem_of_firstNamed? inTree hc
    · cases hc
      exact inTree

end

/-! ## Reading -/

variable {σ : Settings}

/-- The translation only fails, and that at a text of the tree that cannot be read. -/
abbrev Reads {α : Type} (root : Node) (x : Translation α) : Prop :=
  x.OnlyFails (Fault.IsUnread root)

/-- What fails only at a text that cannot be read costs no single statement. -/
theorem decisive_of_reads {α : Type} {x : Translation α} (hx : root.Reads x) : x.Decisive := by
  cases h : x.result with
  | ok a => exact Or.inl ⟨a, h⟩
  | error e =>
    obtain ⟨rfl, -⟩ := hx.fault e h
    exact Or.inr ⟨_, h, rfl⟩

theorem reads_read (hn : n ∈ root.preorder) : root.Reads (read n) := by
  unfold Translation.read
  cases h : n.text with
  | some t => exact onlyFails_pure t
  | none => exact onlyFails_fail ⟨rfl, n, hn, h⟩

theorem reads_reach (hn : n ∈ root.preorder) : root.Reads (reach n) := by
  unfold Translation.reach
  split
  · exact onlyFails_pure ()
  · next illegible =>
    refine onlyFails_fail ⟨rfl, n, hn, ?_⟩
    simp only [isLegible, Bool.or_eq_true, not_or, Bool.not_eq_true,
      Option.isSome_eq_false_iff, Option.isNone_iff_eq_none] at illegible
    exact illegible.2

theorem reads_reach? {n? : Option Node} (h : ∀ n, n? = some n → n ∈ root.preorder) :
    root.Reads (reach? n?) := by
  cases n? with
  | none => exact onlyFails_pure ()
  | some n => exact reads_reach (h n rfl)

theorem reads_reachAll {ns : List Node} (h : ∀ n ∈ ns, n ∈ root.preorder) :
    root.Reads (reachAll ns) := by
  induction ns with
  | nil => exact onlyFails_pure ()
  | cons n ns ih =>
    have first := reads_reach (h n List.mem_cons_self)
    have others := ih fun m hm => h m (List.mem_cons_of_mem n hm)
    exact first.bind fun _ _ => others

section

variable (hn : n ∈ root.preorder)
include hn

theorem reads_reachChild (f : Field) : root.Reads (reach? (n.child? f)) :=
  reads_reach? fun _ hc => mem_of_child? hn hc

theorem reads_reachFirstNamed : root.Reads (reach? n.firstNamed?) :=
  reads_reach? fun _ hc => mem_of_firstNamed? hn hc

theorem reads_reachParts : root.Reads (reachAll n.parts) :=
  reads_reachAll fun _ hc => mem_of_parts hn hc

theorem reads_reachNamedParts : root.Reads (reachAll n.namedParts) :=
  reads_reachAll fun _ hc => mem_of_namedParts hn hc

theorem reads_reachEntries (ds : List String) : root.Reads (reachAll (n.entries ds)) :=
  reads_reachAll fun _ hc => mem_of_entries hn hc

theorem reads_reachDeclaredType : root.Reads (reachDeclaredType n) := by
  have annotation := reads_reachChild hn .type
  have declared := reads_reach? fun _ hc => mem_of_declaredType? hn hc
  exact annotation.bind fun _ _ => declared

theorem reads_kotlinName : root.Reads (n.kotlinName σ) := by
  unfold kotlinName
  refine (reads_read hn).bind fun text _ => ?_
  split <;> exact onlyFails_pure _

/-! ## Type names -/

theorem reads_reachParameters : root.Reads n.reachParameters := by
  unfold reachParameters
  split
  · next list found =>
    have inTree := mem_of_child? hn found
    refine (reads_reachEntries inTree _).bind fun _ _ => ?_
    exact OnlyFails.forM fun p hp => reads_reachDeclaredType (mem_of_payloads inTree hp)
  · exact onlyFails_pure ()

/-- One level of a type node reads it and its parts. -/
theorem reads_expand : root.Reads n.expand := by
  have name (m : Node) (hm : m ∈ root.preorder) :
      root.Reads (do return Expansion.name (← read m)) :=
    (reads_read hm).bind fun _ _ => onlyFails_pure _
  unfold expand
  split
  case h_1 | h_2 | h_3 | h_4 | h_5 | h_6 | h_7 => exact onlyFails_pure _
  case h_8 =>
    refine (reads_reachFirstNamed hn).bind fun _ _ => ?_
    split
    · exact onlyFails_pure _
    · exact name n hn
  case h_9 =>
    refine (reads_reachChild hn _).bind fun _ _ => (reads_reachChild hn _).bind fun _ _ => ?_
    split
    · next head args hname hargs =>
      refine (reads_read (mem_of_child? hn hname)).bind fun _ _ => ?_
      exact (reads_reachEntries (mem_of_child? hn hargs) _).bind fun _ _ => onlyFails_pure _
    · exact name n hn
  case h_10 =>
    refine (reads_reachChild hn _).bind fun _ _ => (reads_reachChild hn _).bind fun _ _ => ?_
    exact (reads_reachParameters hn).bind fun _ _ => onlyFails_pure _
  case h_11 => exact (reads_read hn).bind fun _ _ => onlyFails_pure _
  case h_12 => exact (onlyFails_note rfl).bind fun _ _ => name n hn

theorem mem_of_parameterOperand {m : Node} (h : n.parameterOperand = .node m) :
    m ∈ root.preorder := by
  unfold parameterOperand at h
  split at h
  · next declared found =>
    cases h
    exact mem_of_declaredType? hn found
  · cases h

theorem mem_of_resultOperand {m : Node} (h : n.resultOperand = .node m) : m ∈ root.preorder := by
  unfold resultOperand at h
  split at h
  · next result found =>
    cases h
    exact mem_of_child? hn found
  · cases h

/-- The operands of a type node of the tree are nodes of the tree. -/
theorem mem_of_composes {template : Template} {operands : List Operand} {m : Node}
    (h : n.Composes template operands) (hm : Operand.node m ∈ operands) : m ∈ root.preorder := by
  cases h with
  | array _ found =>
    cases List.mem_singleton.1 hm
    exact mem_of_firstNamed? hn found
  | generic _ _ found =>
    obtain ⟨_, hp, ⟨⟩⟩ := List.mem_map.1 hm
    exact mem_of_payloads (mem_of_child? hn found) hp
  | function =>
    rcases List.mem_append.1 hm with hm | hm
    · unfold parameterOperands at hm
      split at hm
      · next list found =>
        obtain ⟨p, hp, operand⟩ := List.mem_map.1 hm
        exact mem_of_parameterOperand (mem_of_payloads (mem_of_child? hn found) hp) operand
      · cases hm
    · exact mem_of_resultOperand hn (List.mem_singleton.1 hm).symm

end

/-- The induction is on the weight of the type node. -/
theorem reads_typeName (hn : n ∈ root.preorder) : root.Reads n.typeName := by
  induction h : n.weight using Nat.strongRecOn generalizing n with
  | ind w ih =>
    rw [typeName_eq]
    refine (reads_expand hn).bind fun e he => ?_
    cases e with
    | name text => exact onlyFails_pure text
    | compound template operands =>
      have light := weight_expand he
      refine (OnlyFails.mapM fun o ho => ?_).map _
      cases o with
      | name text => exact onlyFails_pure text
      | node m =>
        have lighter : m.weight ≤ Operand.weightAll operands :=
          Operand.weight_le_weightAll_of_mem ho
        have inTree := mem_of_composes hn (composes_of_expand he) ho
        exact ih m.weight (by omega) inTree rfl

theorem reads_typeNameOrAny {n? : Option Node} (h : ∀ n, n? = some n → n ∈ root.preorder) :
    root.Reads (typeNameOrAny n?) := by
  cases n? with
  | none => exact onlyFails_pure anyName
  | some n => exact reads_typeName (h n rfl)

theorem reads_clauseTypeName (hn : n ∈ root.preorder) : root.Reads n.clauseTypeName := by
  unfold clauseTypeName
  split
  · have inner := reads_typeNameOrAny fun _ hc => mem_of_firstNamed? hn hc
    exact (reads_reachFirstNamed hn).bind fun _ _ => inner
  · exact reads_typeName hn

theorem reads_typeUse (hn : n ∈ root.preorder) : root.Reads n.typeUse := by
  unfold typeUse
  refine (reads_reachDeclaredType hn).bind fun _ _ => ?_
  split
  · exact onlyFails_pure _
  · next type found =>
    exact (reads_typeName (mem_of_declaredType? hn found)).bind fun _ _ => onlyFails_pure _

/-! ## Parameters -/

theorem mem_of_hasElement {declared element : Node} (hn : declared ∈ root.preorder)
    (h : declared.HasElement (some element)) : element ∈ root.preorder := by
  generalize h' : some element = element? at h
  cases h with
  | array => exact mem_of_firstNamed? hn h'.symm
  | generic _ _ _ found single =>
    have member : element ∈ _ := single ▸ List.mem_singleton.2 (Option.some.inj h')
    exact mem_of_payloads (mem_of_child? hn found) member

theorem mem_of_parameterType {p type : Node} (hp : p ∈ root.preorder)
    (h : p.parameterType.result = .ok (some type)) : type ∈ root.preorder := by
  unfold parameterType at h
  split at h
  · cases h
  · next declared found =>
    have inTree := mem_of_declaredType? hp found
    split at h
    · exact mem_of_hasElement inTree (hasElement_of_restElement h)
    · cases h
      exact inTree

theorem reads_parameterDefault {p : Node} (hp : p ∈ root.preorder) :
    root.Reads p.parameterDefault := by
  unfold parameterDefault
  refine (reads_reachChild hp _).bind fun _ _ => ?_
  split
  · next value found =>
    exact (reads_read (mem_of_child? hp found)).bind fun _ _ => onlyFails_pure _
  · exact onlyFails_pure _

theorem mem_of_patternName {pattern : Node} (h : pattern ∈ root.preorder) :
    pattern.patternName ∈ root.preorder := by
  unfold patternName
  split
  · cases found : pattern.firstNamed? with
    | none => exact h
    | some inner => exact mem_of_firstNamed? h found
  · exact h

theorem reads_parameterName {p : Node} (hp : p ∈ root.preorder) :
    root.Reads (p.parameterName σ) := by
  unfold parameterName
  refine (reads_reachChild hp _).bind fun _ _ => ?_
  split
  · next pattern found =>
    have inTree := mem_of_patternName (mem_of_child? hp found)
    exact (reads_reach inTree).bind fun _ _ => reads_kotlinName inTree
  · have inTree : p.firstNamed?.getD p ∈ root.preorder := by
      cases found : p.firstNamed? with
      | none => exact hp
      | some inner => exact mem_of_firstNamed? hp found
    refine (reads_reachFirstNamed hp).bind fun _ _ => ?_
    exact (reads_read inTree).bind fun _ _ => onlyFails_pure _

/-! ## Callables and properties -/

/-- A type parameter only reads its name and its bound. -/
theorem reads_typeParameter {p : Node} (hp : p ∈ root.preorder) : root.Reads p.typeParameter := by
  have name : root.Reads p.typeParameterName := by
    unfold typeParameterName
    refine (reads_reachChild hp _).bind fun _ _ => ?_
    split
    · next name found => exact reads_typeName (mem_of_child? hp found)
    · exact reads_read hp
  unfold typeParameter
  refine name.bind fun _ _ => (reads_reachChild hp _).bind fun _ _ => ?_
  split
  · exact onlyFails_pure _
  · next constraint found =>
    have inTree := mem_of_child? hp found
    refine (reads_reachFirstNamed inTree).bind fun _ _ => ?_
    split
    · exact onlyFails_pure _
    · next bound inner =>
      exact (reads_typeName (mem_of_firstNamed? inTree inner)).bind fun _ _ => onlyFails_pure _

theorem reads_noteDropped (name : String) (line : Nat) (signature : CallSignature) :
    root.Reads (noteDropped name line signature) := by
  unfold noteDropped
  split
  · exact onlyFails_pure ()
  · exact onlyFails_note rfl

section

variable (hn : n ∈ root.preorder)
include hn

theorem reads_typeParameters? : root.Reads n.typeParameters? := by
  unfold typeParameters?
  split
  · next list found =>
    have inTree := mem_of_child? hn found
    refine OnlyFails.map ?_ _
    refine (reads_reachEntries inTree _).bind fun _ _ => OnlyFails.mapM fun p hp => ?_
    exact reads_typeParameter (mem_of_payloads inTree hp)
  · exact onlyFails_pure none

theorem reads_resultTypeName : root.Reads n.resultTypeName := by
  unfold resultTypeName
  refine (reads_reachChild hn _).bind fun _ _ => ?_
  split
  · next clause found => exact reads_clauseTypeName (mem_of_child? hn found)
  · exact onlyFails_pure unitName

theorem reads_property {name : Node} (hname : name ∈ root.preorder) :
    root.Reads (n.property σ name) := by
  unfold property
  refine (reads_reachParts hn).bind fun _ _ => (reads_typeUse hn).bind fun _ _ => ?_
  exact (reads_kotlinName hname).bind fun _ _ => onlyFails_pure _

end

theorem reads_anyModifier (keyword : String) {ns : List Node} (h : ∀ n ∈ ns, n ∈ root.preorder) :
    root.Reads (anyModifier keyword ns) := by
  induction ns with
  | nil => exact onlyFails_pure false
  | cons n ns ih =>
    have others := ih fun m hm => h m (List.mem_cons_of_mem n hm)
    rw [anyModifier]
    split
    · refine (reads_read (h n List.mem_cons_self)).bind fun _ _ => ?_
      split
      · exact onlyFails_pure true
      · exact others
    · exact others

section

variable (hn : n ∈ root.preorder)
include hn

theorem reads_isHidden : root.Reads n.isHidden := by
  have modifier (keyword : String) : root.Reads (anyModifier keyword n.parts) :=
    reads_anyModifier keyword fun _ hc => mem_of_parts hn hc
  unfold isHidden
  split
  · exact onlyFails_pure true
  · refine (modifier "private").bind fun _ _ => ?_
    split
    · exact onlyFails_pure true
    · exact modifier "protected"

end

end Node

end KotlinStubs
