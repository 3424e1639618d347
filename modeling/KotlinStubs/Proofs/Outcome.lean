import KotlinStubs.Syntax.Reading

/-!
# Outcomes of composite translations

What a composite translation gives and notes, in terms of its parts.  A fault either aborts the
whole file (`Aborts`) or costs one statement only, in which case `rescue` goes on.

`collect` does one thing for each element of a list and joins the results; the scan of statements,
the parts of an ambient declaration and the declarators of a variable declaration are its instances.

`x.Gives P` says that a result of `x`, if it has one, has the property `P`.

* `Gives.bind`, `Gives.collect`: properties of composite results follow from those of the parts.
* `Silent.bind`: what consists of parts that record no rejection records none.
* `Decisive.rescue`: a statement that is rescued succeeds unless the whole file is aborted.
* `collect_append`: a list is done in two pieces as in one.
-/

namespace KotlinStubs

namespace Translation

variable {α β : Type}

/-! ## Results and rejections -/

theorem result_bind (x : Translation α) (f : α → Translation β) :
    (x >>= f).result = x.result >>= fun a => (f a).result := by
  cases h : x.result with
  | ok a => rw [bind_ok h]; rfl
  | error e => rw [bind_error h]; rfl

theorem rejections_bind_ok {x : Translation α} {f : α → Translation β} {a : α}
    (h : x.result = .ok a) : (x >>= f).rejections = x.rejections ++ (f a).rejections := by
  rw [bind_ok h]
  rfl

theorem rejections_bind_error {x : Translation α} {f : α → Translation β} {e : Fault}
    (h : x.result = .error e) : (x >>= f).rejections = x.rejections := by
  rw [bind_error h]

theorem bind_congr_of_result {x : Translation α} {f g : α → Translation β}
    (h : ∀ a, x.result = .ok a → f a = g a) : (x >>= f) = (x >>= g) := by
  cases hx : x.result with
  | ok a => rw [bind_ok hx, bind_ok hx, h a hx]
  | error e => rw [bind_error hx, bind_error hx]

theorem map_fail (f : α → β) (e : Fault) : f <$> (fail e : Translation α) = fail e := rfl

/-- What a translation gives, nothing if it ends with a fault. -/
def given (x : Translation (List α)) : List α :=
  match x.result with
  | .ok as => as
  | .error _ => []

theorem given_ok {x : Translation (List α)} {as : List α} (h : x.result = .ok as) :
    x.given = as := by
  rw [given, h]

theorem given_error {x : Translation (List α)} {e : Fault} (h : x.result = .error e) :
    x.given = [] := by
  rw [given, h]

theorem given_bind {x : Translation α} {f : α → Translation (List β)} {a : α}
    (h : x.result = .ok a) : (x >>= f).given = (f a).given := by
  rw [bind_ok h]
  rfl

/-! ## Faults that end the file -/

/-- The translation ends with a fault that ends the whole file. -/
def Aborts (x : Translation α) : Prop := ∃ e, x.result = .error e ∧ e.line? = none

theorem not_aborts_of_ok {x : Translation α} {a : α} (h : x.result = .ok a) : ¬ x.Aborts := by
  rintro ⟨e, he, -⟩
  cases h.symm.trans he

theorem Aborts.bind {x : Translation α} {f : α → Translation β} (h : x.Aborts) :
    (x >>= f).Aborts := by
  obtain ⟨e, he, hl⟩ := h
  exact ⟨e, by rw [bind_error he], hl⟩

theorem aborts_of_bind {x : Translation α} {f : α → Translation β} {a : α}
    (h : x.result = .ok a) : (x >>= f).Aborts ↔ (f a).Aborts := by
  rw [bind_ok h]
  rfl

/-- A translation that never costs only one statement succeeds unless it aborts. -/
def Decisive (x : Translation α) : Prop := (∃ a, x.result = .ok a) ∨ x.Aborts

theorem Decisive.ok {x : Translation α} (h : x.Decisive) (done : ¬ x.Aborts) :
    ∃ a, x.result = .ok a :=
  h.resolve_right done

theorem Decisive.line?_eq_none {x : Translation α} (h : x.Decisive) {e : Fault}
    (he : x.result = .error e) : e.line? = none := by
  rcases h with ⟨a, ha⟩ | ⟨e', he', ends⟩
  · cases ha.symm.trans he
  · cases he'.symm.trans he
    exact ends

theorem decisive_pure (a : α) : (pure a : Translation α).Decisive := Or.inl ⟨a, rfl⟩

theorem decisive_note (e : Event) : (note e).Decisive := Or.inl ⟨(), rfl⟩

theorem decisive_reject (r : Rejection) : (reject r).Decisive := Or.inl ⟨(), rfl⟩

theorem Decisive.bind {x : Translation α} {f : α → Translation β} (hx : x.Decisive)
    (hf : ∀ a, x.result = .ok a → (f a).Decisive) : (x >>= f).Decisive := by
  rcases hx with ⟨a, ha⟩ | aborts
  · rcases hf a ha with ⟨b, hb⟩ | aborts
    · exact Or.inl ⟨b, result_bind_eq_ok.2 ⟨a, ha, hb⟩⟩
    · exact Or.inr ((aborts_of_bind ha).2 aborts)
  · exact Or.inr aborts.bind

/-- A decisive first part of a translation that does not abort succeeds. -/
theorem Decisive.ok_of_bind {x : Translation α} {f : α → Translation β} (hx : x.Decisive)
    (done : ¬ (x >>= f).Aborts) : ∃ a, x.result = .ok a ∧ ¬ (f a).Aborts := by
  obtain ⟨a, ha⟩ := hx.ok fun aborts => done aborts.bind
  exact ⟨a, ha, fun aborts => done ((aborts_of_bind ha).2 aborts)⟩

/-! ## Rescue -/

theorem rescue_ok {x : Translation α} {recover : Fault → Nat → Translation α} {a : α}
    (h : x.result = .ok a) : x.rescue recover = x := by
  rw [rescue, h]

theorem rescue_aborts {x : Translation α} {recover : Fault → Nat → Translation α}
    (h : x.Aborts) : x.rescue recover = x := by
  obtain ⟨e, he, hl⟩ := h
  simp only [rescue, he, hl]

theorem rescue_line {x : Translation α} {recover : Fault → Nat → Translation α} {e : Fault}
    {line : Nat} (h : x.result = .error e) (hl : e.line? = some line) :
    x.rescue recover = x.after (recover e line) := by
  simp only [rescue, h, hl]

/-- A translation succeeds, aborts, or costs one statement. -/
theorem ok_or_aborts_or_line (x : Translation α) :
    (∃ a, x.result = .ok a) ∨ x.Aborts ∨ ∃ e line, x.result = .error e ∧ e.line? = some line := by
  cases h : x.result with
  | ok a => exact Or.inl ⟨a, rfl⟩
  | error e =>
    cases hl : e.line? with
    | none => exact Or.inr (Or.inl ⟨e, h, hl⟩)
    | some line => exact Or.inr (Or.inr ⟨e, line, rfl, hl⟩)

theorem Decisive.rescue {x : Translation α} {recover : Fault → Nat → Translation α}
    (h : ∀ e line, (recover e line).Decisive) : (x.rescue recover).Decisive := by
  rcases x.ok_or_aborts_or_line with ⟨a, ha⟩ | aborts | ⟨e, line, he, hl⟩
  · rw [rescue_ok ha]
    exact Or.inl ⟨a, ha⟩
  · rw [rescue_aborts aborts]
    exact Or.inr aborts
  · rw [rescue_line he hl]
    exact h e line

/-! ## One thing for each element -/

/-- Does one thing for each element of a list and joins the results. -/
def collect (f : α → Translation (List β)) : List α → Translation (List β)
  | [] => pure []
  | a :: as => do
    let first ← f a
    let others ← collect f as
    pure (first ++ others)

@[simp] theorem collect_nil (f : α → Translation (List β)) : collect f [] = pure [] := rfl

theorem collect_cons (f : α → Translation (List β)) (a : α) (as : List α) :
    collect f (a :: as) = (do
      let first ← f a
      let others ← collect f as
      pure (first ++ others)) := rfl

theorem collect_singleton (f : α → Translation (List β)) (a : α) : collect f [a] = f a := by
  simp [collect_cons]

theorem collect_append (f : α → Translation (List β)) (as bs : List α) :
    collect f (as ++ bs) = (do
      let first ← collect f as
      let others ← collect f bs
      pure (first ++ others)) := by
  induction as with
  | nil => simp
  | cons a as ih =>
    simp only [List.cons_append, collect_cons, ih, bind_assoc, pure_bind, List.append_assoc]

theorem collect_congr {f g : α → Translation (List β)} {as : List α}
    (h : ∀ a ∈ as, f a = g a) : collect f as = collect g as := by
  induction as with
  | nil => rfl
  | cons a as ih =>
    rw [collect_cons, collect_cons, h a List.mem_cons_self,
      ih fun b hb => h b (List.mem_cons_of_mem a hb)]

theorem collect_map {γ : Type} (f : β → Translation (List γ)) (g : α → β) (as : List α) :
    collect f (as.map g) = collect (fun a => f (g a)) as := by
  induction as with
  | nil => rfl
  | cons a as ih => rw [List.map_cons, collect_cons, collect_cons, ih]

theorem collect_eq_mapM (f : α → Translation (List β)) (as : List α) :
    collect f as = List.flatten <$> as.mapM f := by
  induction as with
  | nil => simp
  | cons a as ih =>
    simp only [collect_cons, ih, List.mapM_cons, map_eq_pure_bind, bind_assoc, pure_bind,
      List.flatten_cons]

/-- What succeeds for each element succeeds for the list. -/
theorem collect_ok {f : α → Translation (List β)} {as : List α}
    (h : ∀ a ∈ as, ∃ bs, (f a).result = .ok bs) : ∃ bs, (collect f as).result = .ok bs := by
  induction as with
  | nil => exact ⟨[], rfl⟩
  | cons a as ih =>
    obtain ⟨first, hfirst⟩ := h a List.mem_cons_self
    obtain ⟨others, hothers⟩ := ih fun b hb => h b (List.mem_cons_of_mem a hb)
    exact ⟨first ++ others,
      result_bind_eq_ok.2 ⟨first, hfirst, result_bind_eq_ok.2 ⟨others, hothers, rfl⟩⟩⟩

theorem Decisive.collect {f : α → Translation (List β)} (h : ∀ a, (f a).Decisive)
    (as : List α) : (collect f as).Decisive := by
  induction as with
  | nil => exact decisive_pure []
  | cons a as ih =>
    exact (h a).bind fun _ _ => ih.bind fun _ _ => decisive_pure _

/-! ## Reading -/

theorem decisive_fail {e : Fault} (h : e.line? = none) : (fail e : Translation α).Decisive :=
  Or.inr ⟨e, rfl, h⟩

theorem decisive_read (n : Node) : (read n).Decisive := by
  unfold read
  cases n.text with
  | some t => exact decisive_pure t
  | none => exact decisive_fail rfl

theorem decisive_reach (n : Node) : (reach n).Decisive := by
  unfold reach
  split
  · exact decisive_pure ()
  · exact decisive_fail rfl

theorem decisive_reach? (n : Option Node) : (reach? n).Decisive := by
  cases n with
  | none => exact decisive_pure ()
  | some n => exact decisive_reach n

theorem decisive_reachAll (ns : List Node) : (reachAll ns).Decisive := by
  induction ns with
  | nil => exact decisive_pure ()
  | cons n ns ih => exact (decisive_reach n).bind fun _ _ => ih

theorem text_of_read {n : Node} {t : String} (h : (read n).result = .ok t) : n.text = some t := by
  unfold read at h
  cases hn : n.text with
  | none =>
    rw [hn] at h
    cases h
  | some s =>
    rw [hn] at h
    cases h
    rfl

theorem isLegible_of_reach {n : Node} (h : (reach n).result = .ok ()) : n.isLegible = true := by
  unfold reach at h
  split at h
  · assumption
  · cases h

/-- Nodes are reached just if the kind of each is known. -/
theorem reachAll_eq_ok {ns : List Node} :
    (reachAll ns).result = .ok () ↔ ∀ n ∈ ns, n.isLegible = true := by
  constructor
  · intro h
    induction ns with
    | nil =>
      intro n hn
      cases hn
    | cons n ns ih =>
      obtain ⟨_, first, others⟩ := result_bind_eq_ok.1 h
      intro m hm
      rcases List.mem_cons.1 hm with rfl | hm
      · exact isLegible_of_reach first
      · exact ih others m hm
  · intro h
    rw [reachAll_of_isLegible h]
    rfl

/-! ## Translations that record nothing -/

/-- The translation records no rejection. -/
def Silent (x : Translation α) : Prop := x.rejections = []

theorem silent_pure (a : α) : (pure a : Translation α).Silent := rfl

theorem silent_note (e : Event) : (note e).Silent := rfl

theorem silent_fail (e : Fault) : (fail e : Translation α).Silent := rfl

theorem Silent.bind {x : Translation α} {f : α → Translation β} (hx : x.Silent)
    (hf : ∀ a, (f a).Silent) : (x >>= f).Silent := by
  unfold Silent at hx ⊢
  cases h : x.result with
  | ok a => rw [rejections_bind_ok h, hx, hf a, List.nil_append]
  | error e => rw [rejections_bind_error h, hx]

theorem silent_read (n : Node) : (read n).Silent := by
  unfold read
  cases n.text with
  | some t => exact silent_pure t
  | none => exact silent_fail _

theorem silent_reach (n : Node) : (reach n).Silent := by
  unfold reach
  split
  · exact silent_pure ()
  · exact silent_fail _

theorem silent_reach? (n : Option Node) : (reach? n).Silent := by
  cases n with
  | none => exact silent_pure ()
  | some n => exact silent_reach n

theorem silent_reachAll (ns : List Node) : (reachAll ns).Silent := by
  induction ns with
  | nil => exact silent_pure ()
  | cons n ns ih => exact (silent_reach n).bind fun _ => ih

/-! ## Properties of results -/

/-- A result of the translation, if it has one, has a property. -/
def Gives (x : Translation α) (P : α → Prop) : Prop := ∀ a, x.result = .ok a → P a

theorem gives_pure {P : α → Prop} {a : α} (h : P a) : (pure a : Translation α).Gives P := by
  intro b hb
  cases hb
  exact h

theorem gives_fail {P : α → Prop} (e : Fault) : (fail e : Translation α).Gives P := by
  intro a ha
  cases ha

theorem Gives.bind {x : Translation α} {f : α → Translation β} {P : α → Prop} {Q : β → Prop}
    (hx : x.Gives P) (hf : ∀ a, P a → (f a).Gives Q) : (x >>= f).Gives Q := by
  intro b hb
  obtain ⟨a, ha, hb⟩ := result_bind_eq_ok.1 hb
  exact hf a (hx a ha) b hb

theorem Gives.imp {x : Translation α} {P Q : α → Prop} (hx : x.Gives P) (h : ∀ a, P a → Q a) :
    x.Gives Q :=
  fun a ha => h a (hx a ha)

theorem Gives.given_eq_nil {x : Translation (List α)} (h : x.Gives (· = [])) : x.given = [] := by
  cases hx : x.result with
  | ok as => rw [given_ok hx, h as hx]
  | error e => exact given_error hx

/-- Where nothing need be known of the first part. -/
theorem gives_bind {x : Translation α} {f : α → Translation β} {Q : β → Prop}
    (hf : ∀ a, (f a).Gives Q) : (x >>= f).Gives Q := by
  intro b hb
  obtain ⟨a, _, hb⟩ := result_bind_eq_ok.1 hb
  exact hf a b hb

theorem Gives.map {x : Translation α} {f : α → β} {P : α → Prop} {Q : β → Prop}
    (hx : x.Gives P) (hf : ∀ a, P a → Q (f a)) : (f <$> x).Gives Q := by
  rw [map_eq_pure_bind]
  exact hx.bind fun a ha => gives_pure (hf a ha)

theorem Gives.after {x : Translation α} {y : Translation β} {Q : β → Prop} (h : y.Gives Q) :
    (x.after y).Gives Q :=
  h

theorem Gives.rescue {x : Translation α} {recover : Fault → Nat → Translation α} {P : α → Prop}
    (hx : x.Gives P) (h : ∀ e line, (recover e line).Gives P) : (x.rescue recover).Gives P := by
  rcases x.ok_or_aborts_or_line with ⟨a, ha⟩ | aborts | ⟨e, line, he, hl⟩
  · rw [rescue_ok ha]
    exact hx
  · rw [rescue_aborts aborts]
    exact hx
  · rw [rescue_line he hl]
    exact (h e line).after

theorem Gives.mapM {f : α → Translation β} {as : List α} {P : β → Prop}
    (h : ∀ a, (f a).Gives P) : (as.mapM f).Gives fun bs => ∀ b ∈ bs, P b := by
  induction as with
  | nil => exact gives_pure fun b hb => absurd hb List.not_mem_nil
  | cons a as ih =>
    rw [List.mapM_cons]
    refine (h a).bind fun b hb => ih.bind fun bs hbs => gives_pure ?_
    intro c hc
    rcases List.mem_cons.1 hc with rfl | hc
    · exact hb
    · exact hbs c hc

theorem gives_length_mapM (f : α → Translation β) (as : List α) :
    (as.mapM f).Gives fun bs => bs.length = as.length := by
  induction as with
  | nil => exact gives_pure rfl
  | cons a as ih =>
    rw [List.mapM_cons]
    refine gives_bind fun b => ih.bind fun bs length => gives_pure ?_
    rw [List.length_cons, List.length_cons, length]

theorem Gives.collect {f : α → Translation (List β)} {as : List α} {P : β → Prop}
    (h : ∀ a ∈ as, (f a).Gives fun bs => ∀ b ∈ bs, P b) :
    (collect f as).Gives fun bs => ∀ b ∈ bs, P b := by
  induction as with
  | nil => exact gives_pure fun b hb => absurd hb List.not_mem_nil
  | cons a as ih =>
    rw [collect_cons]
    refine (h a List.mem_cons_self).bind fun first hfirst => ?_
    refine (ih fun b hb => h b (List.mem_cons_of_mem a hb)).bind fun others hothers => ?_
    refine gives_pure fun b hb => ?_
    rcases List.mem_append.1 hb with hb | hb
    · exact hfirst b hb
    · exact hothers b hb

end Translation

end KotlinStubs
