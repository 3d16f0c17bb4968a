import CommandEngine.Object

/-! # Declared supertypes

A type hierarchy is built by declaring one type as a direct subtype of another.  `isSubtype`
follows the declarations upwards and holds of a type and itself.  A declaration that would make
two types subtypes of each other is refused, so every hierarchy built by declarations is free of
cycles.

Only identities count here.  Two keys of one identity are one type; the names a refused
declaration reports are those it was made with.

`isSubtype` walks the declarations with a stack of types still to visit and a list of those
visited.  A type may be stacked many times before it is visited, and visiting it stacks its direct
supertypes, so the stack may grow.  What it grows by are edges from a type that was not visited
before, and no edge starts from two types.  So the edges that lie ahead of the walk (`ahead`) and
the types on the stack get fewer when they are counted together, and that is the measure by which
the walk ends.  It makes no use of how the map was built: the walk ends on cyclic maps too.
-/
namespace CommandEngine

/-- Direct supertypes by type; of several entries for one type the first counts. -/
structure Hierarchy where
  supertypes : List (String × List String)
  deriving DecidableEq, Repr, Inhabited

namespace Hierarchy

/-- Nothing is declared. -/
def empty : Hierarchy := ⟨[]⟩

/-- The declared direct supertypes of a type. -/
def direct (h : Hierarchy) (t : String) : List String :=
  ((h.supertypes.find? (·.1 == t)).map (·.2)).getD []

/-! ## The walk -/

/-- How many edges start from types that were not visited. -/
def ahead (h : Hierarchy) (visited : List String) : Nat :=
  ((h.supertypes.filter fun e => decide (e.1 ∉ visited)).flatMap (·.2)).length

section Entries
variable {e : String × List String} {entries : List (String × List String)} {t : String}
  {visited : List String}

theorem direct_entry : (⟨e :: entries⟩ : Hierarchy).direct t =
    if e.1 = t then e.2 else (⟨entries⟩ : Hierarchy).direct t := by
  by_cases he : e.1 = t <;> simp [direct, he]

theorem ahead_entry : (⟨e :: entries⟩ : Hierarchy).ahead visited =
    (if e.1 ∈ visited then 0 else e.2.length) + (⟨entries⟩ : Hierarchy).ahead visited := by
  by_cases he : e.1 ∈ visited <;> simp [ahead, he]

end Entries

theorem ahead_cons_le (h : Hierarchy) (t : String) (visited : List String) :
    h.ahead (t :: visited) ≤ h.ahead visited := by
  obtain ⟨entries⟩ := h
  induction entries with
  | nil => exact Nat.le_refl _
  | cons e entries ih =>
    rw [ahead_entry, ahead_entry]
    by_cases hvisited : e.1 ∈ visited
    · rw [if_pos hvisited, if_pos (List.mem_cons_of_mem t hvisited)]
      omega
    · rw [if_neg hvisited]
      split <;> omega

/-- Visiting a type takes its edges off those that lie ahead. -/
theorem ahead_visit {h : Hierarchy} {t : String} {visited : List String} (hnew : t ∉ visited) :
    h.ahead (t :: visited) + (h.direct t).length ≤ h.ahead visited := by
  obtain ⟨entries⟩ := h
  induction entries with
  | nil => exact Nat.le_refl _
  | cons e entries ih =>
    rw [ahead_entry, ahead_entry, direct_entry]
    by_cases hentry : e.1 = t
    · -- later entries of the type do not count, so their edges may go as well
      subst hentry
      have hrest := ahead_cons_le ⟨entries⟩ e.1 visited
      rw [if_pos rfl, if_pos List.mem_cons_self, if_neg hnew]
      omega
    · have hkept : e.1 ∈ t :: visited ↔ e.1 ∈ visited := by simp [hentry]
      rw [if_neg hentry]
      simp only [hkept]
      omega

/-- Is `goal` a direct supertype of one of the types to visit, or above one?  The type to visit
next stands first. -/
def search (h : Hierarchy) (goal : String) (visited toVisit : List String) : Bool :=
  match toVisit with
  | [] => false
  | t :: rest =>
    if t ∈ visited then h.search goal visited rest
    else if goal ∈ h.direct t then true
    else h.search goal (t :: visited) ((h.direct t).reverse ++ rest)
termination_by h.ahead visited + toVisit.length
decreasing_by
  · simp
  · next hnew _ =>
    have := ahead_visit (h := h) hnew
    simp only [List.length_append, List.length_reverse, List.length_cons]
    omega

/-- The type is the other one or below it. -/
def isSubtype (h : Hierarchy) (sub sup : TypeKey) : Bool :=
  sub.id == sup.id || h.search sup.id [] [sub.id]

/-- The type is below the other one. -/
def isStrictSubtype (h : Hierarchy) (sub sup : TypeKey) : Bool :=
  sub.id != sup.id && h.isSubtype sub sup

/-- One of the types is the other or below it. -/
def areRelated (h : Hierarchy) (a b : TypeKey) : Bool := h.isSubtype a b || h.isSubtype b a

/-! ## Declarations -/

/-- A declaration that would close a cycle. -/
structure Cycle where
  sub : TypeKey
  sup : TypeKey
  deriving DecidableEq, Repr, Inhabited

/-- The wording. -/
def Cycle.text (c : Cycle) : String :=
  s!"declaring {c.sub.name} as a subtype of {c.sup.name} creates a cycle"

/-- Adds a direct supertype of a type, once. -/
def insert (h : Hierarchy) (sub sup : String) : Hierarchy :=
  if h.supertypes.any (·.1 == sub) then
    ⟨h.supertypes.map fun (t, above) =>
      if t = sub ∧ sup ∉ above then (t, above ++ [sup]) else (t, above)⟩
  else ⟨h.supertypes ++ [(sub, [sup])]⟩

/-- Declares `sub` as a direct subtype of `sup`. -/
def declare (h : Hierarchy) (sub sup : TypeKey) : Except Cycle Hierarchy :=
  if h.isSubtype sup sub then .error ⟨sub, sup⟩ else .ok (h.insert sub.id sup.id)

/-- Makes declarations one after the other, up to the first that is refused. -/
def declareAll (h : Hierarchy) (pairs : List (TypeKey × TypeKey)) : Except Cycle Hierarchy :=
  pairs.foldlM (fun h (sub, sup) => h.declare sub sup) h

end Hierarchy
end CommandEngine
