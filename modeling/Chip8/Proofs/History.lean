import Chip8.Machine.Host
import Chip8.Machine.Operation
import Mathlib.Data.List.Forall2
import Mathlib.Data.List.Induction
import Mathlib.Tactic.Common

/-!
# Histories and their entries

A history is told as its operations together with their answers. Much of what a machine
holds depends on what has been executed since it was made or last reset, and that can be
read off the entries. A property of entries and machine that every operation keeps holds
after every history.

## Main definitions

* `Operation.goesOn` — the operations that neither load a program nor reset the machine.
* `Entry`, `Machine.entries` — an operation with its answer, and those of a history.
* `Entry.sinceReset` — the entries after the last reset.
* `Entry.executed` — the instructions that entries have executed.
* `Call`, `Machine.Follows` — histories whose blocking steps ask hosts.
* `Machine.Occasion` — a call of such a history, with what leads up to it and what follows.
-/

namespace Chip8

/-- The operation neither loads a program nor resets the machine. -/
def Operation.goesOn : Operation → Bool
  | .load _ => false
  | .reset => false
  | _ => true

/-- An operation with its answer. -/
abbrev Entry := Operation × Answer

namespace Entry

/-- Whether an entry is a reset. -/
def isReset (e : Entry) : Bool :=
  match e.1 with
  | .reset => true
  | _ => false

theorem isReset_eq_false {op : Operation} {answer : Answer} (kept : op ≠ .reset) :
    isReset (op, answer) = false := by
  cases op with
  | reset => exact absurd rfl kept
  | _ => rfl

/-- The entries after the last reset, or all of them if there is none. -/
def sinceReset (es : List Entry) : List Entry :=
  (es.reverse.takeWhile fun e => !e.isReset).reverse

/-- The instructions that entries have executed, in their order. -/
def executed (es : List Entry) : List Instruction :=
  es.filterMap fun e => e.2.executed?

theorem sinceReset_concat (es : List Entry) (e : Entry) :
    sinceReset (es ++ [e]) = if e.isReset then [] else sinceReset es ++ [e] := by
  rw [sinceReset, List.reverse_append, List.reverse_singleton, List.singleton_append,
    List.takeWhile_cons]
  cases e.isReset with
  | true => rfl
  | false => exact List.reverse_cons

theorem executed_concat (es : List Entry) (e : Entry) :
    executed (es ++ [e]) = executed es ++ e.2.executed?.toList := by
  rw [executed, List.filterMap_append]
  cases h : e.2.executed? <;> simp [executed, h]

end Entry

namespace Machine

/-- The entries of a history. -/
def entries (m : Machine) (ops : List Operation) : List Entry :=
  ops.zip (m.run ops).1

theorem length_answers (m : Machine) (ops : List Operation) :
    (m.run ops).1.length = ops.length := by
  induction ops generalizing m with
  | nil => rfl
  | cons op rest ih => rw [run_cons, List.length_cons, ih, List.length_cons]

theorem run_concat (m : Machine) (ops : List Operation) (op : Operation) :
    m.run (ops ++ [op]) =
      ((m.run ops).1 ++ [((m.run ops).2.perform op).1], ((m.run ops).2.perform op).2) :=
  m.run_append ops [op]

theorem entries_concat (m : Machine) (ops : List Operation) (op : Operation) :
    m.entries (ops ++ [op]) = m.entries ops ++ [(op, ((m.run ops).2.perform op).1)] := by
  rw [entries, run_concat, List.zip_append (m.length_answers ops).symm]
  rfl

/-- What holds of a machine at the start, and is kept by every operation, holds after every
history. It may speak of the entries so far as well. -/
theorem run_induction {m : Machine} {P : List Entry → Machine → Prop} (start : P [] m)
    (next : ∀ es m' op, P es m' → P (es ++ [(op, (m'.perform op).1)]) (m'.perform op).2)
    (ops : List Operation) : P (m.entries ops) (m.run ops).2 := by
  induction ops using List.reverseRecOn with
  | nil => exact start
  | append_singleton ops op ih =>
    rw [entries_concat, run_concat]
    exact next _ _ op ih

end Machine

/-! ## Histories with hosts

A blocking step can ask any host. Such a history is told by scripts as well, one for each
blocking step that has come to an end, so nothing that holds after all histories is missed
by the hosts. -/

/-- An operation, or a blocking step that asks a host. -/
inductive Call where
  | op (op : Operation)
  | ask {σ : Type} (host : Host σ) (memory : σ)

/-- An operation that tells what a call has done. Only a host is told by something else
than itself, by a script. -/
inductive Call.Tells : Call → Operation → Prop where
  | op (op : Operation) : Tells (.op op) op
  | ask {σ : Type} (host : Host σ) (memory : σ) (frames : List Frame) :
      Tells (.ask host memory) (.stepBlocking frames)

namespace Machine

/-- `m.Follows calls answers m'`: the calls lead from `m` to `m'` and are answered so. -/
inductive Follows (m : Machine) : List Call → List Answer → Machine → Prop where
  | start : Follows m [] [] m
  | op {calls : List Call} {answers : List Answer} {m' : Machine}
      (before : Follows m calls answers m') (op : Operation) :
      Follows m (calls ++ [.op op]) (answers ++ [(m'.perform op).1]) (m'.perform op).2
  | ask {calls : List Call} {answers : List Answer} {m' : Machine} {σ : Type} {host : Host σ}
      {s t : σ} {w : Waited} (before : Follows m calls answers m')
      (ends : m'.Blocks host s w t) :
      Follows m (calls ++ [.ask host s]) (answers ++ [.waited w.result w.polls]) w.machine

/-- Calls lead to one machine only, and are answered in one way. -/
theorem Follows.deterministic {m m₁ m₂ : Machine} {calls : List Call}
    {answers₁ answers₂ : List Answer} (h₁ : m.Follows calls answers₁ m₁)
    (h₂ : m.Follows calls answers₂ m₂) : answers₁ = answers₂ ∧ m₁ = m₂ := by
  induction h₁ generalizing answers₂ m₂ with
  | start =>
    generalize none : [] = calls at h₂
    cases h₂ with
    | start => exact ⟨rfl, rfl⟩
    | op before op => simp at none
    | ask before ends => simp at none
  | @op calls _ _ _ op ih =>
    generalize all : calls ++ [Call.op op] = these at h₂
    cases h₂ with
    | start => simp at all
    | op before op' =>
      obtain ⟨rfl, last⟩ := List.append_inj' all rfl
      cases last
      obtain ⟨rfl, rfl⟩ := ih before
      exact ⟨rfl, rfl⟩
    | ask before ends => cases (List.append_inj' all rfl).2
  | @ask calls _ _ _ host s _ _ _ ends₁ ih =>
    generalize all : calls ++ [Call.ask host s] = these at h₂
    cases h₂ with
    | start => simp at all
    | op before op => cases (List.append_inj' all rfl).2
    | ask before ends₂ =>
      obtain ⟨rfl, last⟩ := List.append_inj' all rfl
      cases last
      obtain ⟨rfl, rfl⟩ := ih before
      obtain ⟨rfl, -⟩ := ends₁.deterministic ends₂
      exact ⟨rfl, rfl⟩

/-- A history without hosts is one with them. -/
theorem follows_run (m : Machine) (ops : List Operation) :
    m.Follows (ops.map .op) (m.run ops).1 (m.run ops).2 := by
  induction ops using List.reverseRecOn with
  | nil => exact .start
  | append_singleton ops op ih =>
    rw [List.map_append, run_concat]
    exact ih.op op

/-- What follows from calls follows from the operations that tell them. -/
theorem Follows.exists_run {m m' : Machine} {calls : List Call} {answers : List Answer}
    (h : m.Follows calls answers m') :
    ∃ ops, List.Forall₂ Call.Tells calls ops ∧ m.run ops = (answers, m') := by
  induction h with
  | start => exact ⟨[], .nil, rfl⟩
  | op before op ih =>
    obtain ⟨ops, tells, e⟩ := ih
    refine ⟨ops ++ [op], List.rel_append tells (.cons (.op op) .nil), ?_⟩
    rw [run_concat, e]
  | @ask _ _ _ _ host s _ w before ends ih =>
    obtain ⟨ops, tells, e⟩ := ih
    obtain ⟨frames, same⟩ := ends.exists_script
    refine ⟨ops ++ [.stepBlocking frames],
      List.rel_append tells (.cons (.ask host s frames) .nil), ?_⟩
    rw [run_concat, e]
    simp only [perform, same]

/-- Every call is answered. -/
theorem Follows.length_answers {m m' : Machine} {calls : List Call} {answers : List Answer}
    (h : m.Follows calls answers m') : answers.length = calls.length := by
  induction h with
  | start => rfl
  | op before op ih => rw [List.length_append, List.length_append, ih]; rfl
  | ask before ends ih => rw [List.length_append, List.length_append, ih]; rfl

/-- A single call is told by an operation. -/
theorem Follows.exists_perform {m m' : Machine} {c : Call} {answer : Answer}
    (h : m.Follows [c] [answer] m') : ∃ op, c.Tells op ∧ m.perform op = (answer, m') := by
  obtain ⟨ops, tells, e⟩ := h.exists_run
  cases tells with
  | cons told none =>
    cases none
    cases e
    exact ⟨_, told, rfl⟩

/-- Calls can be made in two parts. -/
theorem Follows.append {m m' m'' : Machine} {calls later : List Call}
    {answers others : List Answer} (h : m.Follows calls answers m')
    (h' : m'.Follows later others m'') : m.Follows (calls ++ later) (answers ++ others) m'' := by
  induction h' with
  | start =>
    rw [List.append_nil, List.append_nil]
    exact h
  | op before op ih =>
    rw [← List.append_assoc, ← List.append_assoc]
    exact ih.op op
  | ask before ends ih =>
    rw [← List.append_assoc, ← List.append_assoc]
    exact ih.ask ends

/-- What holds at the start of a course of calls, and is kept by each of them, holds at its
end, whether hosts are asked or not. -/
theorem Follows.induction {m : Machine} {P : List Call → List Answer → Machine → Prop}
    (start : P [] [] m)
    (next : ∀ calls answers m' c answer m'', m.Follows calls answers m' → P calls answers m' →
      m'.Follows [c] [answer] m'' → P (calls ++ [c]) (answers ++ [answer]) m'')
    {calls : List Call} {answers : List Answer} {after : Machine}
    (h : m.Follows calls answers after) : P calls answers after := by
  induction h with
  | start => exact start
  | op before op ih => exact next _ _ _ _ _ _ before ih (Follows.start.op op)
  | ask before ends ih => exact next _ _ _ _ _ _ before ih (Follows.start.ask ends)

/-- A call of a course, with the course that leads up to it and the one that follows it. -/
structure Occasion (m : Machine) (calls : List Call) (answers : List Answer)
    (after : Machine) where
  early : List Call
  call : Call
  late : List Call
  given : List Answer
  answer : Answer
  rest : List Answer
  /-- The machine at the time of the call. -/
  here : Machine
  /-- The machine that the call leads to. -/
  there : Machine
  calls_eq : calls = early ++ call :: late
  answers_eq : answers = given ++ answer :: rest
  before : m.Follows early given here
  happens : here.Follows [call] [answer] there
  behind : there.Follows late rest after

/-- A call stays one of the course when the course goes on. -/
def Occasion.goOn {m m' after : Machine} {calls : List Call} {answers : List Answer} {c : Call}
    {answer : Answer} (o : Occasion m calls answers m') (next : m'.Follows [c] [answer] after) :
    Occasion m (calls ++ [c]) (answers ++ [answer]) after :=
  { o with
    late := o.late ++ [c]
    rest := o.rest ++ [answer]
    calls_eq := (congrArg (· ++ [c]) o.calls_eq).trans (List.append_assoc o.early _ [c])
    answers_eq :=
      (congrArg (· ++ [answer]) o.answers_eq).trans (List.append_assoc o.given _ [answer])
    happens := o.happens
    behind := o.behind.append next }

/-- The last call of a course. -/
def Occasion.newest {m m' after : Machine} {calls : List Call} {answers : List Answer} {c : Call}
    {answer : Answer} (before : m.Follows calls answers m')
    (next : m'.Follows [c] [answer] after) :
    Occasion m (calls ++ [c]) (answers ++ [answer]) after :=
  ⟨calls, c, [], answers, answer, [], m', after, rfl, rfl, before, next, .start⟩

theorem Occasion.call_mem {m after : Machine} {calls : List Call} {answers : List Answer}
    (o : Occasion m calls answers after) : o.call ∈ calls := by
  have among : o.call ∈ o.early ++ o.call :: o.late := List.mem_append_right _ List.mem_cons_self
  rwa [← o.calls_eq] at among

theorem Occasion.answer_mem {m after : Machine} {calls : List Call} {answers : List Answer}
    (o : Occasion m calls answers after) : o.answer ∈ answers := by
  have among : o.answer ∈ o.given ++ o.answer :: o.rest :=
    List.mem_append_right _ List.mem_cons_self
  rwa [← o.answers_eq] at among

/-- The answer to a call has the call's place. -/
theorem Occasion.getElem?_answers {m after : Machine} {calls : List Call} {answers : List Answer}
    (o : Occasion m calls answers after) : answers[o.early.length]? = some o.answer := by
  obtain ⟨early, call, late, given, answer, rest, here, there, rfl, rfl, before, -, -⟩ := o
  have place := before.length_answers
  rw [← place, List.getElem?_append_right (Nat.le_refl _), Nat.sub_self]
  rfl

/-- The calls that follow a call. -/
theorem Occasion.drop_calls {m after : Machine} {calls : List Call} {answers : List Answer}
    (o : Occasion m calls answers after) : calls.drop (o.early.length + 1) = o.late := by
  obtain ⟨early, call, late, given, answer, rest, here, there, rfl, rfl, -, -, -⟩ := o
  rw [List.drop_append, List.drop_eq_nil_of_le (Nat.le_succ _), Nat.add_sub_cancel_left]
  rfl

/-- What holds at the start of a course, and is kept by each of its calls, holds at its end. -/
theorem Follows.keeps {m after : Machine} {calls : List Call} {answers : List Answer}
    (course : m.Follows calls answers after) {P : Machine → Prop} (start : P m)
    (next : ∀ o : Occasion m calls answers after, P o.here → P o.there) : P after := by
  revert next
  refine Follows.induction (P := fun calls answers after =>
    (∀ o : Occasion m calls answers after, P o.here → P o.there) → P after) ?_ ?_ course
  · intro _
    exact start
  · intro calls answers m' c answer m'' before ih next keeps
    exact keeps (.newest before next) (ih fun o => keeps (o.goOn next))

/-- If some answers of a course are of a kind, then one of them is the last. -/
theorem Follows.exists_last {m after : Machine} {calls : List Call} {answers : List Answer}
    (course : m.Follows calls answers after) {p : Answer → Prop} (any : ∃ a ∈ answers, p a) :
    ∃ o : Occasion m calls answers after, p o.answer ∧ ∀ a ∈ o.rest, ¬ p a := by
  revert any
  refine Follows.induction (P := fun calls answers after => (∃ a ∈ answers, p a) →
    ∃ o : Occasion m calls answers after, p o.answer ∧ ∀ a ∈ o.rest, ¬ p a) ?_ ?_ course
  · rintro ⟨a, none, -⟩
    cases none
  · intro calls answers m' c answer m'' before ih next any
    by_cases kind : p answer
    · exact ⟨.newest before next, kind, fun a none => by cases none⟩
    · -- The last call is not of the kind, so it follows the one that is.
      obtain ⟨a, among, is⟩ := any
      have older : a ∈ answers := by
        rcases List.mem_append.1 among with older | newest
        · exact older
        · rw [List.mem_singleton.1 newest] at is
          exact absurd is kind
      obtain ⟨o, found, none⟩ := ih ⟨a, older, is⟩
      refine ⟨o.goOn next, found, ?_⟩
      intro a later
      rcases List.mem_append.1 later with old | newest
      · exact none a old
      · rwa [List.mem_singleton.1 newest]

end Machine
end Chip8
