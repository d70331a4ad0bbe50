/-
Which integers are fresh. Calls for fresh integers come one after another,
directly or for identifiers, and those for one kind of integer mix with those
for the others. A call moves the counter of its own kind and no other
(`Call.make_eq`), so what is issued of a kind is what its counter runs through
(`issued_run`), and from one a counter runs through all integers up to the
greatest, over and over (`Integer.val_iterate_following_one`). The main result
`issues_cycle` puts this together for every sequence of calls.
-/
import Mathlib.Data.Nat.ModEq
import Mathlib.Logic.Function.Iterate
import TypedId.Fresh

namespace TypedId

/-! ## One counter -/

namespace IntegerKind

theorem name_injective : Function.Injective name := by
  intro j k h
  cases j <;> cases k <;> first | rfl | exact absurd h (by decide)

/-- How many integers a counter runs through before it starts again. -/
def period (k : IntegerKind) : Nat := k.max.toNat

theorem cast_period (k : IntegerKind) : (k.period : Int) = k.max := by
  have := k.one_lt_max
  rw [period, Int.toNat_of_nonneg (by omega)]

theorem period_pos (k : IntegerKind) : 0 < k.period := by
  have := k.one_lt_max
  have := k.cast_period
  omega

/-- Behind the greatest integer the remainder starts again, as the counter does. -/
theorem mod_period_succ (k : IntegerKind) (count : Nat) :
    (count + 1) % k.period =
      if count % k.period + 1 = k.period then 0 else count % k.period + 1 := by
  have low := Nat.mod_lt count k.period_pos
  rw [← Nat.mod_add_mod]
  split
  · next last => rw [last, Nat.mod_self]
  · exact Nat.mod_eq_of_lt (by omega)

end IntegerKind

namespace Event

/-- The counter of a kind starts again. -/
def exhausted (k : IntegerKind) : Event :=
  ⟨.warn, "sequential identifier counter exhausted; restarting at 1",
    [("raw_value_type", k.name)]⟩

theorem exhausted_injective : Function.Injective exhausted := by
  intro j k h
  simp only [exhausted, Event.mk.injEq, List.cons.injEq, Prod.mk.injEq, true_and, and_true] at h
  exact IntegerKind.name_injective h

end Event

namespace Integer

variable {k : IntegerKind}

theorem issueEvent?_eq (n : Integer k) :
    n.issueEvent? = if n.val = k.max then some (.exhausted k) else none := rfl

theorem val_following (n : Integer k) :
    n.following.val = if n.val = k.max then 1 else n.val + 1 := by
  have := n.le_max
  unfold following
  split
  · rw [if_neg (by omega)]
  · rw [if_pos (by omega)]
    rfl

/-- From one, a counter runs through the integers up to the greatest, over and over. -/
theorem val_iterate_following_one (count : Nat) :
    (following^[count] (one : Integer k)).val = (count % k.period + 1 : Nat) := by
  induction count with
  | zero => simp [one]
  | succ count ih =>
    rw [Function.iterate_succ_apply', val_following, ih, k.mod_period_succ, ← k.cast_period]
    split <;> split <;> omega

/-- What is issued next to what has been issued are the integers the counter runs through. -/
theorem issue_eq (count : Nat) (issued : List (Integer k)) (n : Integer k) :
    issue count issued n =
      (((List.range count).map (following^[·] n)).reverse ++ issued, following^[count] n) := by
  induction count generalizing issued n with
  | zero => rfl
  | succ count ih =>
    rw [issue, ih, List.range_succ_eq_map, List.map_cons, List.map_map, List.reverse_cons,
      List.append_assoc]
    rfl

end Integer

/-! ## Calls -/

/-- A call for a fresh integer: for the bare one, or for an identifier of it. -/
inductive Call where
  | integer (k : IntegerKind)
  | identifier {k : IntegerKind} (T : IdentifierType (Integer k))

/-- What a call gives, and what it logs. -/
structure Issue where
  kind : IntegerKind
  value : Integer kind
  event : Option Event

/-- The integers of a kind among all that were issued. -/
def issued (k : IntegerKind) (issues : List Issue) : List Int :=
  (issues.filter (·.kind = k)).map (·.value.val)

theorem issued_cons (k : IntegerKind) (x : Issue) (issues : List Issue) :
    issued k (x :: issues) =
      if x.kind = k then x.value.val :: issued k issues else issued k issues := by
  by_cases h : x.kind = k <;> simp [issued, h]

/-- What the calls have logged. -/
def logged (issues : List Issue) : List Event := issues.filterMap (·.event)

namespace Call

variable {γ : Type} [RandomGen γ]

def kind : Call → IntegerKind
  | integer k => k
  | identifier (k := k) _ => k

/-- One call. An identifier is issued with its raw value. -/
def make (s : Supply γ) : Call → Issue × Supply γ
  | integer k =>
    let (n, event, s) := Fresh.draw (α := Integer k) s
    (⟨k, n, event⟩, s)
  | identifier T =>
    let (i, event, s) := Identifier.unique T s
    (⟨_, i.rawValue, event⟩, s)

/-- Calls one after another. -/
def run (s : Supply γ) : List Call → List Issue × Supply γ
  | [] => ([], s)
  | call :: calls =>
    let (issue, s) := call.make s
    let (issues, s) := run s calls
    (issue :: issues, s)

/-- A call issues what the counter of its kind stands at, and moves that counter alone. Whether it
is for an identifier makes no difference. -/
theorem make_eq (call : Call) (s : Supply γ) :
    call.make s =
      let n := s.counters.next call.kind
      (⟨call.kind, n, n.issueEvent?⟩, { s with counters := s.counters.set call.kind n.following }) := by
  cases call <;> rfl

theorem kinds_run (s : Supply γ) (calls : List Call) :
    (run s calls).1.map (·.kind) = calls.map kind := by
  induction calls generalizing s with
  | nil => rfl
  | cons call calls ih =>
    rw [run, List.map_cons, List.map_cons, ih, make_eq]

variable {k : IntegerKind}

/-- The counter of a kind has moved once for each call of that kind. -/
theorem next_run (s : Supply γ) (calls : List Call) :
    (run s calls).2.counters.next k =
      Integer.following^[calls.countP (·.kind = k)] (s.counters.next k) := by
  induction calls generalizing s with
  | nil => rfl
  | cons call calls ih =>
    rw [run, make_eq, ih, List.countP_cons]
    by_cases h : call.kind = k
    · subst h
      simp
    · simp [h, Counters.next_set_of_ne]

/-- Of a kind is issued what its counter runs through, one integer for each call of that kind. -/
theorem issued_run (s : Supply γ) (calls : List Call) :
    issued k (run s calls).1 = (List.range (calls.countP (·.kind = k))).map fun i =>
      (Integer.following^[i] (s.counters.next k)).val := by
  induction calls generalizing s with
  | nil => rfl
  | cons call calls ih =>
    rw [run, make_eq, issued_cons, ih, List.countP_cons]
    by_cases h : call.kind = k
    · subst h
      simp [List.range_succ_eq_map, Function.comp_def]
    · simp [h, Counters.next_set_of_ne]

/-- Every call that issues the greatest integer of its kind logs that, and no other call logs. -/
theorem event_of_mem_run {x : Issue} {s : Supply γ} {calls : List Call}
    (h : x ∈ (run s calls).1) : x.event = x.value.issueEvent? := by
  induction calls generalizing s with
  | nil => cases h
  | cons call calls ih =>
    rw [run, make_eq] at h
    rcases List.mem_cons.mp h with rfl | later
    · rfl
    · exact ih later

/-- Drawing many integers of a kind at once is calling for one after another. -/
theorem drawMany_eq_run (c : Counters) (g : γ) (k : IntegerKind) (count : Nat) :
    let calls := List.replicate count (integer k)
    (c.drawMany k count).1.map (·.val) = issued k (run ⟨c, g⟩ calls).1 ∧
      (c.drawMany k count).2 = (run ⟨c, g⟩ calls).2.counters := by
  intro calls
  have all : calls.countP (·.kind = k) = count := by
    simp [calls, List.countP_replicate, kind]
  refine ⟨?_, ?_⟩
  · simp only [Counters.drawMany, Integer.issue_eq, List.append_nil, List.reverse_reverse,
      List.map_map, issued_run, all]
    rfl
  · ext j
    simp only [next_run, Counters.drawMany, Integer.issue_eq]
    by_cases h : k = j
    · subst h
      simp [all]
    · have none : calls.countP (·.kind = j) = 0 := by
        simp [calls, List.countP_replicate, kind, h]
      simp [none, Counters.next_set_of_ne _ _ h]

end Call

/-! ## What was logged -/

/-- A kind is logged as often as its greatest integer was issued. -/
theorem count_logged {k : IntegerKind} {issues : List Issue}
    (h : ∀ x ∈ issues, x.event = x.value.issueEvent?) :
    (logged issues).count (.exhausted k) = (issued k issues).count k.max := by
  induction issues with
  | nil => rfl
  | cons x issues ih =>
    have first := h x List.mem_cons_self
    have later := ih fun y hy => h y (List.mem_cons_of_mem _ hy)
    rw [Integer.issueEvent?_eq] at first
    rw [issued_cons, logged, List.filterMap_cons, first, ← logged]
    by_cases same : x.kind = k
    · subst same
      by_cases last : x.value.val = x.kind.max <;> simp [last, later]
    · have other : Event.exhausted x.kind ≠ Event.exhausted k :=
        fun he => same (Event.exhausted_injective he)
      by_cases last : x.value.val = x.kind.max <;> simp [last, later, same, other]

/-- The greatest integer comes once in each turn of the counter. -/
theorem count_max (k : IntegerKind) (n : Nat) :
    ((List.range n).map fun i => ((i % k.period + 1 : Nat) : Int)).count k.max = n / k.period := by
  induction n with
  | zero => simp
  | succ n ih =>
    have last : k.period ∣ n + 1 ↔ n % k.period + 1 = k.period := by
      rw [Nat.dvd_iff_mod_eq_zero, IntegerKind.mod_period_succ]
      split <;> omega
    rw [List.range_succ, List.map_append, List.count_append, ih, Nat.succ_div, List.map_singleton,
      List.count_singleton]
    simp only [← k.cast_period, beq_iff_eq, Int.natCast_inj, last]

/-! ## All calls -/

/-- What the calls for a kind are issued: every integer from one to the greatest in turn. -/
structure Cycles (k : IntegerKind) (issues : List Issue) : Prop where
  turn : ∀ i (h : i < (issued k issues).length), (issued k issues)[i] = i % k.max + 1
  bounds : ∀ n ∈ issued k issues, 1 ≤ n ∧ n ≤ k.max ∧ (n ≠ k.max → n + 1 ≤ k.max)
  apart : ∀ i j (hi : i < (issued k issues).length) (hj : j < (issued k issues).length),
    i < j → j < i + k.max → (issued k issues)[i] ≠ (issued k issues)[j]
  exhaustions : (logged issues).count (.exhausted k) = (issued k issues).length / k.max

theorem cycles_of_issued {k : IntegerKind} {issues : List Issue} {n : Nat}
    (integers : issued k issues = (List.range n).map fun i => ((i % k.period + 1 : Nat) : Int))
    (events : ∀ x ∈ issues, x.event = x.value.issueEvent?) : Cycles k issues where
  turn i h := by
    simp [integers, k.cast_period]
  bounds m hm := by
    rw [integers] at hm
    obtain ⟨i, -, rfl⟩ := List.mem_map.mp hm
    have := Nat.mod_lt i k.period_pos
    have := k.cast_period
    omega
  apart i j hi hj before near := by
    simp only [integers, List.getElem_map, List.getElem_range]
    intro same
    have congruent : i ≡ j [MOD k.period] := by
      unfold Nat.ModEq
      omega
    have := congruent.eq_of_abs_lt (by rw [abs_lt, k.cast_period]; omega)
    omega
  exhaustions := by
    rw [count_logged events, integers, count_max, List.length_map, List.length_range, 
      Int.natCast_ediv, k.cast_period]

/-- **Integers cycle.** Of every kind, the calls for it are issued all integers from one to the
greatest in turn, whatever calls for other kinds come in between and whichever identifiers the
calls are for; each time the greatest is issued this is logged, and nothing else is. -/
theorem issues_cycle {γ : Type} [RandomGen γ] (g : γ) (calls : List Call) :
    let issues := (Call.run ⟨.initial, g⟩ calls).1
    issues.map (·.kind) = calls.map (·.kind) ∧
      (∀ k, (issued k issues).length = calls.countP (·.kind = k) ∧ Cycles k issues) ∧
      ∀ x ∈ issues, x.event = if x.value.val = x.kind.max then some (.exhausted x.kind) else none := by
  refine ⟨Call.kinds_run _ calls, fun k => ?_, fun x hx => Call.event_of_mem_run hx⟩
  have integers : issued k (Call.run ⟨.initial, g⟩ calls).1 =
      (List.range (calls.countP (·.kind = k))).map fun i => ((i % k.period + 1 : Nat) : Int) := by
    rw [Call.issued_run]
    exact List.map_congr_left fun i _ => Integer.val_iterate_following_one i
  refine ⟨?_, cycles_of_issued integers fun x hx => Call.event_of_mem_run hx⟩
  rw [integers, List.length_map, List.length_range]

end TypedId
