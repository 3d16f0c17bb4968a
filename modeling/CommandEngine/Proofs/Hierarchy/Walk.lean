import CommandEngine.Proofs.Hierarchy

/-!
# The subtype walk ends, with the right answer

`isSubtype` has a value whatever the map.  That its loop comes to an end is no part of this value,
so the loop is taken turn by turn here (`turn`).  A turn takes a type off the stack.  One that was
visited is dropped; another is visited, and its direct supertypes are stacked one by one until one
of them is the goal.  `walk` is the loop cut off after a number of turns, and has no answer if it
was still going on.

Two facts about one turn carry all that is said of the loop (`Turned`).  The answer of `search`
stays what it is (`Turned.search_eq`), so the loop can end with no other answer; and the edges that
lie ahead and the types on the stack get fewer when they are counted together
(`Turned.remaining_lt`), so it does end.  At the start the count is the number of edges declared and
one more, hence the bound on the turns: each edge stacks at most one type, and each turn but the
last takes one off.

Stacking before the goal is met has no effect, as nothing reads the stack once the loop has
returned.  So it makes no difference where in a list the goal stands.
-/
namespace CommandEngine
namespace Hierarchy

open Relation

/-- A walk that goes on: the types visited, and the stack of those to visit, its top first. -/
structure Walk where
  visited : List String
  toVisit : List String
  deriving DecidableEq, Repr, Inhabited

/-- What a turn of the loop leads to. -/
inductive Turn where
  /-- The loop returns. -/
  | ended (found : Bool)
  | onward (w : Walk)
  deriving DecidableEq, Repr, Inhabited

/-- Stacks types one after the other, unless one of them is the goal. -/
def stackUp (goal : String) : List String → List String → Option (List String)
  | [], stack => some stack
  | s :: above, stack => if s = goal then none else stackUp goal above (s :: stack)

/-- One turn of the loop. -/
def turn (h : Hierarchy) (goal : String) : Walk → Turn
  | ⟨_, []⟩ => .ended false
  | ⟨visited, t :: rest⟩ =>
    if t ∈ visited then .onward ⟨visited, rest⟩
    else
      match stackUp goal (h.direct t) rest with
      | none => .ended true
      | some toVisit => .onward ⟨t :: visited, toVisit⟩

/-- The answer of the loop, if it gives one in that many turns. -/
def walk (h : Hierarchy) (goal : String) : Nat → Walk → Option Bool
  | 0, _ => none
  | n + 1, w =>
    match h.turn goal w with
    | .ended found => some found
    | .onward w' => h.walk goal n w'

/-- The subtype test with its loop cut off after a number of turns. -/
def isSubtypeWithin (h : Hierarchy) (n : Nat) (sub sup : TypeKey) : Option Bool :=
  if sub.id = sup.id then some true else h.walk sup.id n ⟨[], [sub.id]⟩

section Turns
variable {h : Hierarchy} {goal : String} {w w' : Walk} {n : Nat} {found : Bool}

/-! ## One turn -/

/-- The last type stacked is on top. -/
theorem stackUp_eq {above stack : List String} : stackUp goal above stack =
    if goal ∈ above then none else some (above.reverse ++ stack) := by
  induction above generalizing stack with
  | nil => simp [stackUp]
  | cons s above ih =>
    by_cases hs : s = goal
    · simp [stackUp, hs]
    · simp [stackUp, ih, hs, Ne.symm hs]

/-- The ways a turn goes. -/
inductive Turned (h : Hierarchy) (goal : String) : Walk → Turn → Prop
  | exhausted {visited : List String} : Turned h goal ⟨visited, []⟩ (.ended false)
  | dropped {visited rest : List String} {t : String} (hvisited : t ∈ visited) :
      Turned h goal ⟨visited, t :: rest⟩ (.onward ⟨visited, rest⟩)
  | met {visited rest : List String} {t : String} (hnew : t ∉ visited) (hedge : goal ∈ h.direct t) :
      Turned h goal ⟨visited, t :: rest⟩ (.ended true)
  | visited {visited rest : List String} {t : String} (hnew : t ∉ visited)
      (hedge : goal ∉ h.direct t) :
      Turned h goal ⟨visited, t :: rest⟩ (.onward ⟨t :: visited, (h.direct t).reverse ++ rest⟩)

theorem turned (h : Hierarchy) (goal : String) (w : Walk) : Turned h goal w (h.turn goal w) := by
  obtain ⟨visited, toVisit⟩ := w
  cases toVisit with
  | nil => exact .exhausted
  | cons t rest =>
    by_cases hvisited : t ∈ visited
    · rw [turn, if_pos hvisited]
      exact .dropped hvisited
    · rw [turn, if_neg hvisited, stackUp_eq]
      by_cases hedge : goal ∈ h.direct t
      · rw [if_pos hedge]
        exact .met hvisited hedge
      · rw [if_neg hedge]
        exact .visited hvisited hedge

/-- The loop returns what the search finds. -/
theorem Turned.search_of_ended (hturn : Turned h goal w (.ended found)) :
    h.search goal w.visited w.toVisit = found := by
  cases hturn with
  | exhausted => rw [search]
  | met hnew hedge => rw [search, if_neg hnew, if_pos hedge]

/-- What the search finds does not change while the loop goes on. -/
theorem Turned.search_eq (hturn : Turned h goal w (.onward w')) :
    h.search goal w.visited w.toVisit = h.search goal w'.visited w'.toVisit := by
  cases hturn with
  | dropped hvisited => rw [search, if_pos hvisited]
  | visited hnew hedge => rw [search, if_neg hnew, if_neg hedge]

/-- The types on the stack and the edges that may still add to it. -/
def remaining (h : Hierarchy) (w : Walk) : Nat := h.ahead w.visited + w.toVisit.length

theorem Turned.remaining_lt (hturn : Turned h goal w (.onward w')) :
    h.remaining w' < h.remaining w := by
  cases hturn with
  | dropped => exact Nat.add_lt_add_left (Nat.lt_succ_self _) _
  | visited hnew =>
    have hahead := ahead_visit (h := h) hnew
    simp only [remaining, List.length_append, List.length_reverse, List.length_cons]
    omega

/-! ## The loop -/

/-- The loop gives no answer but that of the search. -/
theorem search_of_walk (hwalk : h.walk goal n w = some found) :
    h.search goal w.visited w.toVisit = found := by
  induction n generalizing w with
  | zero => cases hwalk
  | succ n ih =>
    have hturned := turned h goal w
    rw [walk] at hwalk
    cases hturn : h.turn goal w with
    | ended answer =>
      rw [hturn] at hturned hwalk
      exact hturned.search_of_ended.trans (Option.some.inj hwalk)
    | onward w' =>
      rw [hturn] at hturned hwalk
      exact hturned.search_eq.trans (ih hwalk)

/-- The loop ends from every walk on every map. -/
theorem walk_ends (hturns : h.remaining w < n) : ∃ found, h.walk goal n w = some found := by
  induction n generalizing w with
  | zero => exact absurd hturns (Nat.not_lt_zero _)
  | succ n ih =>
    have hturned := turned h goal w
    rw [walk]
    cases hturn : h.turn goal w with
    | ended found => exact ⟨found, rfl⟩
    | onward w' =>
      rw [hturn] at hturned
      exact ih (Nat.lt_of_lt_of_le hturned.remaining_lt (Nat.le_of_lt_succ hturns))

theorem remaining_start {t : String} :
    h.remaining ⟨[], [t]⟩ = (h.supertypes.flatMap (·.2)).length + 1 := by
  have hall : h.supertypes.filter (fun e => decide (e.1 ∉ [])) = h.supertypes :=
    List.filter_eq_self.mpr (by simp)
  rw [remaining, ahead, hall, List.length_singleton]

/-! ## The subtype test -/

variable {a b : TypeKey}

theorem isSubtype_of_isSubtypeWithin (hwithin : h.isSubtypeWithin n a b = some found) :
    h.isSubtype a b = found := by
  unfold isSubtypeWithin at hwithin
  unfold isSubtype
  by_cases hid : a.id = b.id
  · rw [if_pos hid] at hwithin
    rw [← Option.some.inj hwithin, beq_iff_eq.mpr hid, Bool.true_or]
  · rw [if_neg hid] at hwithin
    rw [beq_eq_false_iff_ne.mpr hid, Bool.false_or]
    exact search_of_walk hwithin

theorem isSubtypeWithin_ends (hturns : (h.supertypes.flatMap (·.2)).length + 2 ≤ n) :
    ∃ found, h.isSubtypeWithin n a b = some found := by
  unfold isSubtypeWithin
  split
  · exact ⟨true, rfl⟩
  · have hstart : h.remaining ⟨[], [a.id]⟩ < n := by
      rw [remaining_start]
      omega
    exact walk_ends hstart

/-- **The subtype walk ends on every map, with the right answer.**  Whether or not the declarations
close a cycle, the loop has returned after as many turns as there are declared edges and two more.
However many turns it is given, it returns no answer but that of `isSubtype`, which is whether the
types are one or the second is reached from the first along one or more edges.  Only the edges
matter: the order of the lists does not, nor does it matter how often an edge is declared or how
many ways lead to a type. -/
theorem isSubtype_exact (h : Hierarchy) (a b : TypeKey) :
    (∀ n, (h.supertypes.flatMap (·.2)).length + 2 ≤ n →
      h.isSubtypeWithin n a b = some (h.isSubtype a b)) ∧
    (∀ n found, h.isSubtypeWithin n a b = some found → found = h.isSubtype a b) ∧
    (h.isSubtype a b = true ↔ a.id = b.id ∨ TransGen h.Edge a.id b.id) ∧
    ∀ h' : Hierarchy, (∀ s t, t ∈ h'.direct s ↔ t ∈ h.direct s) →
      h'.isSubtype a b = h.isSubtype a b := by
  refine ⟨?_, ?_, ?_, fun _ => isSubtype_congr⟩
  · intro n hturns
    obtain ⟨found, hwithin⟩ := isSubtypeWithin_ends (a := a) (b := b) hturns
    rw [hwithin, isSubtype_of_isSubtypeWithin hwithin]
  · intro n found hwithin
    exact (isSubtype_of_isSubtypeWithin hwithin).symm
  · rw [isSubtype_iff, reflTransGen_iff_eq_or_transGen, eq_comm]

/-- On a cycle with an edge that comes twice the loop takes all the turns it may. -/
example :
    let h : Hierarchy := ⟨[("A", ["B", "B"]), ("B", ["A"])]⟩
    h.isSubtypeWithin 4 ⟨"A", "A"⟩ ⟨"C", "C"⟩ = none ∧
      h.isSubtypeWithin 5 ⟨"A", "A"⟩ ⟨"C", "C"⟩ = some false := by decide

end Turns
end Hierarchy
end CommandEngine
