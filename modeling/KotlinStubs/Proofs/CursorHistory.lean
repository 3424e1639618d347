import KotlinStubs.Syntax.Cursor
import KotlinStubs.Proofs.StatementForms

/-!
# Histories of cursors

Any number of cursors may be created, asked, drained and reset in any order.  A request looks at
the cursor of its number and changes no other, so in the history of all requests those to one cursor
are answered as if it were alone.  Its answers depend on nothing but its list, the expected kind and
how many payloads it has been asked for since it was created or last reset, failed requests
included; `Answers` says how.

* `about_history`: one cursor among others.
* `exists_answers`: one request to a cursor; `isHistory_of_asked`: any number of them.
* `history_of_cursor`: both.
-/

namespace KotlinStubs

namespace Cursors

/-- The number of the cursor that a request is for. -/
def Request.id : Request → Int
  | .create id _ _ => id
  | .next id => id
  | .reset id => id
  | .rest id => id

/-- Whether a request creates its cursor. -/
def Request.creates : Request → Bool
  | .create _ _ _ => true
  | _ => false

/-- Requests made one after the other, with their answers. -/
def history (cs : Cursors) : List Request → List (Request × Response)
  | [] => []
  | r :: rs => (r, (cs.perform r).1) :: history (cs.perform r).2 rs

/-- The requests to one cursor in a history, with their answers. -/
def about (i : Int) (h : List (Request × Response)) : List (Request × Response) :=
  h.filter fun entry => entry.1.id == i

section

variable {cs cs' : Cursors} {i id : Int} {c : Cursor} {f : Cursor → Response × Cursor}
  {r : Request} {a : Response} {h : List (Request × Response)}

theorem about_cons_of_eq (own : r.id = i) : about i ((r, a) :: h) = (r, a) :: about i h :=
  List.filter_cons_of_pos (beq_iff_eq.2 own)

theorem about_cons_of_ne (other : r.id ≠ i) : about i ((r, a) :: h) = about i h :=
  List.filter_cons_of_neg fun own => other (beq_iff_eq.1 own)

/-! ## One cursor among others -/

theorem lookup_insert_self : (cs.insert id c).lookup id = some c := List.lookup_cons_self

theorem lookup_without_ne (other : i ≠ id) :
    (cs.filter fun entry => entry.1 != id).lookup i = cs.lookup i := by
  induction cs with
  | nil => rfl
  | cons entry cs ih =>
    obtain ⟨j, d⟩ := entry
    by_cases removed : j = id
    · have passed : (i == j) = false := beq_false_of_ne (by rwa [removed])
      rw [List.filter_cons_of_neg (by simp [removed]), List.lookup_cons, passed, ih]
    · rw [List.filter_cons_of_pos (by simp [removed]), List.lookup_cons, List.lookup_cons, ih]

theorem lookup_insert_ne (other : i ≠ id) : (cs.insert id c).lookup i = cs.lookup i := by
  rw [insert, List.lookup_cons, beq_false_of_ne other, lookup_without_ne other]

theorem ask_of_none (missing : cs.lookup id = none) : cs.ask id f = (.unknown, cs) := by
  rw [ask, missing]

theorem ask_of_some (found : cs.lookup id = some c) :
    cs.ask id f = ((f c).1, cs.insert id (f c).2) := by
  rw [ask, found]

theorem lookup_ask_ne (other : i ≠ id) : (cs.ask id f).2.lookup i = cs.lookup i := by
  cases found : cs.lookup id with
  | none => rw [ask_of_none found]
  | some c => rw [ask_of_some found, lookup_insert_ne other]

theorem ask_congr (same : cs.lookup id = cs'.lookup id) :
    (cs.ask id f).1 = (cs'.ask id f).1 ∧
      (cs.ask id f).2.lookup id = (cs'.ask id f).2.lookup id := by
  cases found : cs.lookup id with
  | none =>
    rw [ask_of_none found, ask_of_none (same.symm.trans found)]
    exact ⟨rfl, same⟩
  | some c =>
    rw [ask_of_some found, ask_of_some (same.symm.trans found), lookup_insert_self,
      lookup_insert_self]
    exact ⟨rfl, rfl⟩

/-- A request changes no cursor but its own. -/
theorem lookup_perform_ne (other : r.id ≠ i) : (cs.perform r).2.lookup i = cs.lookup i := by
  cases r with
  | create id payloads expected => exact lookup_insert_ne other.symm
  | next id => exact lookup_ask_ne other.symm
  | reset id => exact lookup_ask_ne other.symm
  | rest id => exact lookup_ask_ne other.symm

/-- A request looks at no cursor but its own. -/
theorem perform_congr (same : cs.lookup r.id = cs'.lookup r.id) :
    (cs.perform r).1 = (cs'.perform r).1 ∧
      (cs.perform r).2.lookup r.id = (cs'.perform r).2.lookup r.id := by
  cases r with
  | create id payloads expected =>
    exact ⟨rfl, lookup_insert_self.trans lookup_insert_self.symm⟩
  | next id => exact ask_congr same
  | reset id => exact ask_congr same
  | rest id => exact ask_congr same

/-- The requests to a cursor are answered as if no others were made. -/
theorem about_history (same : cs.lookup i = cs'.lookup i) (rs : List Request) :
    about i (history cs rs) = history cs' (rs.filter fun r => r.id == i) := by
  -- The two runs may differ in all other cursors, but agree on this one after each request.
  induction rs generalizing cs cs' with
  | nil => rfl
  | cons r rs ih =>
    rw [history, List.filter_cons]
    by_cases own : r.id = i
    · subst own
      obtain ⟨answer, after⟩ := perform_congr same
      rw [about_cons_of_eq rfl, if_pos (beq_self_eq_true r.id), history, answer, ih after]
    · rw [about_cons_of_ne own, if_neg (by rwa [beq_iff_eq])]
      exact ih ((lookup_perform_ne own).trans same)

end

/-! ## A cursor alone -/

/-- What a cursor over payloads of an expected kind answers when it has been asked for `k` payloads,
and for how many it has been asked then.  Draining it asks for payloads up to the first failure. -/
inductive Answers (payloads : List Node) (expected : Kind) : Nat → Request → Response → Nat → Prop
  | payload {k : Nat} {i : Int} {n : Node} :
    payloads[k]? = some n → n.kind = expected →
    Answers payloads expected k (.next i) (.node n) (k + 1)
  | wrong {k : Nat} {i : Int} {n : Node} :
    payloads[k]? = some n → n.kind ≠ expected →
    Answers payloads expected k (.next i) (.stopped (.fault (.wrongEntry expected n.type))) (k + 1)
  | exhausted {k : Nat} {i : Int} :
    payloads.length ≤ k → Answers payloads expected k (.next i) (.stopped .exhausted) (k + 1)
  | reset {k : Nat} {i : Int} : Answers payloads expected k (.reset i) .done 0
  | drained {k : Nat} {i : Int} :
    (∀ n ∈ payloads.drop k, n.kind = expected) →
    Answers payloads expected k (.rest i) (.nodes (payloads.drop k))
      (k + (payloads.drop k).length + 1)
  | drainedToWrong {k : Nat} {i : Int} {front behind : List Node} {n : Node} :
    payloads.drop k = front ++ n :: behind → (∀ m ∈ front, m.kind = expected) →
    n.kind ≠ expected →
    Answers payloads expected k (.rest i) (.stopped (.fault (.wrongEntry expected n.type)))
      (k + front.length + 1)

/-- The answers to a cursor's requests that follow when it has been asked for `k` payloads. -/
inductive IsHistory (payloads : List Node) (expected : Kind) :
    Nat → List (Request × Response) → Prop
  | nil {k : Nat} : IsHistory payloads expected k []
  | cons {k k' : Nat} {r : Request} {a : Response} {h : List (Request × Response)} :
    Answers payloads expected k r a k' → IsHistory payloads expected k' h →
    IsHistory payloads expected k ((r, a) :: h)

end Cursors

namespace Cursor

variable {payloads front behind ns : List Node} {expected : Kind} {n : Node} {k : Nat}

/-- The cursor that has been asked for `k` payloads.  It stays at the end of its list, however often
it is asked there. -/
def asked (payloads : List Node) (expected : Kind) (k : Nat) : Cursor :=
  ⟨payloads, expected, min k payloads.length⟩

theorem check_of_kind (h : n.kind = expected) : check expected n = .ok n := if_pos h

theorem check_of_kind_ne (h : n.kind ≠ expected) :
    check expected n = .error (.fault (.wrongEntry expected n.type)) := if_neg h

theorem drain_of_kinds (h : ∀ n ∈ ns, n.kind = expected) :
    drain expected ns = (.ok ns, ns.length) := by
  induction ns with
  | nil => rfl
  | cons n ns ih =>
    rw [List.forall_mem_cons] at h
    rw [drain, check_of_kind h.1]
    simp only [ih h.2, Except.map, List.length_cons]

theorem drain_of_wrong (kinds : ∀ m ∈ front, m.kind = expected) (wrong : n.kind ≠ expected) :
    drain expected (front ++ n :: behind) =
      (.error (.fault (.wrongEntry expected n.type)), front.length + 1) := by
  induction front with
  | nil =>
    rw [List.nil_append, drain, check_of_kind_ne wrong]
    rfl
  | cons m front ih =>
    rw [List.forall_mem_cons] at kinds
    rw [List.cons_append, drain, check_of_kind kinds.1]
    simp only [ih kinds.2, Except.map, List.length_cons]

theorem kinds_or_first_wrong (expected : Kind) (ns : List Node) :
    (∀ n ∈ ns, n.kind = expected) ∨
      ∃ front n behind, ns = front ++ n :: behind ∧ (∀ m ∈ front, m.kind = expected) ∧
        n.kind ≠ expected := by
  cases first : ns.find? fun n => n.kind != expected with
  | none =>
    refine Or.inl fun n hn => ?_
    have notWrong := List.find?_eq_none.1 first n hn
    rwa [Bool.not_eq_true, bne_eq_false_iff_eq] at notWrong
  | some n =>
    obtain ⟨wrong, front, behind, split, notWrong⟩ := List.find?_eq_some_iff_append.1 first
    refine Or.inr ⟨front, n, behind, split, fun m hm => ?_, bne_iff_ne.1 wrong⟩
    have kind := notWrong m hm
    rwa [Bool.not_eq_true', bne_eq_false_iff_eq] at kind

theorem next_asked_of_payload (found : payloads[k]? = some n) :
    (asked payloads expected k).next = (check expected n, asked payloads expected (k + 1)) := by
  have inside : k < payloads.length := (List.getElem?_eq_some_iff.1 found).1
  rw [next, asked, Nat.min_eq_left (Nat.le_of_lt inside), asked, Nat.min_eq_left inside]
  simp only [found]

theorem next_asked_of_exhausted (beyond : payloads.length ≤ k) :
    (asked payloads expected k).next = (.error .exhausted, asked payloads expected (k + 1)) := by
  have missing : payloads[payloads.length]? = none := List.getElem?_eq_none (Nat.le_refl _)
  rw [next, asked, Nat.min_eq_right beyond, asked, Nat.min_eq_right (Nat.le_succ_of_le beyond)]
  simp only [missing]

theorem reset_asked : (asked payloads expected k).reset = asked payloads expected 0 := by
  rw [reset, asked, asked, Nat.zero_min]

/-- The payloads left to a cursor. -/
theorem drop_position_asked :
    (asked payloads expected k).payloads.drop (asked payloads expected k).position =
      payloads.drop k := by
  simp only [asked]
  rw [List.drop_eq_drop_iff, Nat.min_assoc, Nat.min_self]

theorem rest_asked_of_kinds (kinds : ∀ n ∈ payloads.drop k, n.kind = expected) :
    (asked payloads expected k).rest =
      (.ok (payloads.drop k), asked payloads expected (k + (payloads.drop k).length + 1)) := by
  have stops : min k payloads.length + (payloads.drop k).length =
      min (k + (payloads.drop k).length + 1) payloads.length := by
    rw [List.length_drop]
    omega
  rw [rest, drop_position_asked]
  simp only [asked, drain_of_kinds kinds, stops]

theorem rest_asked_of_wrong (split : payloads.drop k = front ++ n :: behind)
    (kinds : ∀ m ∈ front, m.kind = expected) (wrong : n.kind ≠ expected) :
    (asked payloads expected k).rest =
      (.error (.fault (.wrongEntry expected n.type)),
        asked payloads expected (k + front.length + 1)) := by
  have length := congrArg List.length split
  rw [List.length_drop, List.length_append, List.length_cons] at length
  have stops : min k payloads.length + (front.length + 1) =
      min (k + front.length + 1) payloads.length := by
    omega
  rw [rest, drop_position_asked, split]
  simp only [asked, drain_of_wrong kinds wrong, stops]

end Cursor

namespace Cursors

open Cursor

variable {cs : Cursors} {i : Int} {r : Request} {payloads : List Node} {expected : Kind} {k : Nat}

/-- One request to a cursor that has been asked for `k` payloads. -/
theorem exists_answers (own : r.id = i) (found : cs.lookup i = some (asked payloads expected k))
    (kept : r.creates = false) :
    ∃ k', Answers payloads expected k r (cs.perform r).1 k' ∧
      (cs.perform r).2.lookup i = some (asked payloads expected k') := by
  cases r with
  | create id payloads' expected' => cases kept
  | next id =>
    obtain rfl : id = i := own
    refine ⟨k + 1, ?_⟩
    rw [perform, ask_of_some found]
    cases payload : payloads[k]? with
    | none =>
      have beyond : payloads.length ≤ k := List.getElem?_eq_none_iff.1 payload
      rw [next_asked_of_exhausted beyond]
      exact ⟨.exhausted beyond, lookup_insert_self⟩
    | some n =>
      rw [next_asked_of_payload payload]
      by_cases kind : n.kind = expected
      · rw [check_of_kind kind]
        exact ⟨.payload payload kind, lookup_insert_self⟩
      · rw [check_of_kind_ne kind]
        exact ⟨.wrong payload kind, lookup_insert_self⟩
  | reset id =>
    obtain rfl : id = i := own
    refine ⟨0, ?_⟩
    rw [perform, ask_of_some found, reset_asked]
    exact ⟨.reset, lookup_insert_self⟩
  | rest id =>
    obtain rfl : id = i := own
    rw [perform, ask_of_some found]
    rcases kinds_or_first_wrong expected (payloads.drop k) with
      kinds | ⟨front, n, behind, split, kinds, wrong⟩
    · rw [rest_asked_of_kinds kinds]
      exact ⟨_, .drained kinds, lookup_insert_self⟩
    · rw [rest_asked_of_wrong split kinds wrong]
      exact ⟨_, .drainedToWrong split kinds wrong, lookup_insert_self⟩

/-- Any requests, as long as the cursor is not replaced. -/
theorem isHistory_of_asked {rs : List Request} {since later : List (Request × Response)}
    (found : cs.lookup i = some (asked payloads expected k))
    (segment : history cs rs = since ++ later)
    (kept : ∀ entry ∈ since, entry.1.id = i → entry.1.creates = false) :
    IsHistory payloads expected k (about i since) := by
  -- The number of payloads asked for determines the cursor; requests to others leave it as it is.
  induction since generalizing cs rs k with
  | nil => exact .nil
  | cons entry since ih =>
    cases rs with
    | nil => cases segment
    | cons r rs =>
      obtain ⟨rfl, behind⟩ := List.cons.inj segment
      rw [List.forall_mem_cons] at kept
      by_cases own : r.id = i
      · obtain ⟨k', answers, after⟩ := exists_answers own found (kept.1 own)
        rw [about_cons_of_eq own]
        exact .cons answers (ih after behind kept.2)
      · rw [about_cons_of_ne own]
        exact ih ((lookup_perform_ne own).trans found) behind kept.2

/-- What follows a request in a history is a history of its own. -/
theorem history_eq_append {rs : List Request} {before since : List (Request × Response)}
    {a : Response} (h : history cs rs = before ++ (r, a) :: since) :
    ∃ cs' rs', a = (perform cs' r).1 ∧ history (perform cs' r).2 rs' = since := by
  induction before generalizing cs rs with
  | nil =>
    cases rs with
    | nil => cases h
    | cons r' rs =>
      obtain ⟨⟨⟩, behind⟩ := List.cons.inj h
      exact ⟨cs, rs, rfl, behind⟩
  | cons entry before ih =>
    cases rs with
    | nil => cases h
    | cons r' rs => exact ih (List.cons.inj h).2

end Cursors

open Cursors

/-- **Independent cursors.** In the history of any requests, those to one cursor are answered as if
no other cursor had been asked.  From a creation of the cursor on, as long as it is not replaced, it
answers by the number of payloads that it has been asked for since then or since its last reset. -/
theorem history_of_cursor (requests : List Request) (i : Int) :
    about i (history [] requests) = history [] (requests.filter fun r => r.id == i) ∧
      ∀ before since later payloads expected a,
        history [] requests = before ++ (.create i payloads expected, a) :: (since ++ later) →
        (∀ entry ∈ since, entry.1.id = i → entry.1.creates = false) →
        a = .done ∧ IsHistory payloads expected 0 (about i since) := by
  refine ⟨about_history rfl requests, ?_⟩
  intro before since later payloads expected a split kept
  obtain ⟨cs, rs, rfl, segment⟩ := history_eq_append split
  refine ⟨rfl, isHistory_of_asked ?_ segment kept⟩
  rw [Cursor.asked, Nat.zero_min]
  exact lookup_insert_self

namespace Node

/-- `let a, b, c`, with a bare name for the second declarator. -/
def listOfThree : Node :=
  branch "lexical_declaration" "let a, b, c" [] [
    token "let", leaf "variable_declarator" "a" [], token ",", leaf "identifier" "b" [], token ",",
    leaf "variable_declarator" "c" []]

/-- Two cursors over one list that expect different kinds, asked in turn.  The first is replaced in
the end. -/
def requestsToTwo : List Request :=
  let payloads := listOfThree.payloads declaratorDelimiters
  [.create 0 payloads .variableDeclarator, .create 1 payloads .identifier, .next 1, .next 0,
    .rest 0, .next 1, .next 0, .next 0, .reset 0, .rest 1, .next 0, .create 0 payloads .identifier,
    .next 0]

theorem history_of_cursor_requestsToTwo :
    IsHistory (listOfThree.payloads declaratorDelimiters) .variableDeclarator 0 [
      (.next 0, .node (leaf "variable_declarator" "a" [])),
      (.rest 0, .stopped (.fault (.wrongEntry .variableDeclarator "identifier"))),
      (.next 0, .node (leaf "variable_declarator" "c" [])),
      (.next 0, .stopped .exhausted),
      (.reset 0, .done),
      (.next 0, .node (leaf "variable_declarator" "a" []))] := by
  obtain ⟨-, behind⟩ := history_of_cursor requestsToTwo 0
  let later := (history [] requestsToTwo).tail
  have kept : ∀ entry ∈ later.take 10, entry.1.id = 0 → entry.1.creates = false := by decide
  exact (behind [] (later.take 10) (later.drop 10) _ _ _ rfl kept).2

end Node

end KotlinStubs
