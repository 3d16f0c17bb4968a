import CommandEngine.Json

/-! # Ambient values

Ambient values travel with a command from the caller to the job that runs it: a culture, an actor,
a tenant.  They are a finite map from texts to data.  The entries are kept in the order of their
keys, each key once, so that equal maps are equal values; the invariant is part of the type and
`set` keeps it.
-/
namespace CommandEngine

/-- The keys grow strictly along the list. -/
def KeysIncrease (entries : List (String × Json)) : Prop :=
  entries.Pairwise fun a b => a.1 < b.1

/-- Sets one entry of a list ordered by key. -/
def setEntry (key : String) (value : Json) : List (String × Json) → List (String × Json)
  | [] => [(key, value)]
  | (k, v) :: rest =>
    if key < k then (key, value) :: (k, v) :: rest
    else if key = k then (key, value) :: rest
    else (k, v) :: setEntry key value rest

theorem mem_setEntry {key : String} {value : Json} {e : String × Json}
    {entries : List (String × Json)} (h : e ∈ setEntry key value entries) :
    e = (key, value) ∨ e ∈ entries := by
  induction entries with
  | nil => exact Or.inl (by simpa [setEntry] using h)
  | cons head rest ih =>
    obtain ⟨k, v⟩ := head
    unfold setEntry at h
    split at h
    · simpa using h
    · split at h
      · rcases List.mem_cons.mp h with h | h
        · exact Or.inl h
        · exact Or.inr (List.mem_cons_of_mem _ h)
      · rcases List.mem_cons.mp h with h | h
        · exact Or.inr (h ▸ List.mem_cons_self ..)
        · exact (ih h).imp id (List.mem_cons_of_mem _)

/-- Two different keys of which one is not below the other are ordered the other way. -/
theorem key_lt_of_not_lt {a b : String} (h : ¬ a < b) (hne : a ≠ b) : b < a := by
  rcases Decidable.em (b < a) with hba | hba
  · exact hba
  · exact absurd (String.le_antisymm (String.not_lt.mp hba) (String.not_lt.mp h)) hne

theorem keysIncrease_setEntry (key : String) (value : Json) {entries : List (String × Json)}
    (h : KeysIncrease entries) : KeysIncrease (setEntry key value entries) := by
  induction entries with
  | nil => exact List.pairwise_singleton _ _
  | cons head rest ih =>
    obtain ⟨k, v⟩ := head
    have hrest := List.pairwise_cons.mp h
    unfold setEntry
    split
    · next hlt =>
      refine List.pairwise_cons.mpr ⟨?_, h⟩
      intro e he
      rcases List.mem_cons.mp he with rfl | he
      · exact hlt
      · exact String.lt_trans hlt (hrest.1 e he)
    · next hlt =>
      split
      · next heq =>
        exact List.pairwise_cons.mpr ⟨fun e he => heq ▸ hrest.1 e he, hrest.2⟩
      · next hne =>
        refine List.pairwise_cons.mpr ⟨?_, ih hrest.2⟩
        intro e he
        rcases mem_setEntry he with rfl | he
        · exact key_lt_of_not_lt hlt hne
        · exact hrest.1 e he

/-- Values that travel with a command. -/
structure AmbientValues where
  entries : List (String × Json)
  increasing : KeysIncrease entries

namespace AmbientValues

@[ext] theorem ext {a b : AmbientValues} (h : a.entries = b.entries) : a = b := by
  cases a; cases b; cases h; rfl

instance : DecidableEq AmbientValues := fun a b =>
  decidable_of_iff (a.entries = b.entries) ⟨ext, fun h => h ▸ rfl⟩

/-- No values. -/
def empty : AmbientValues := ⟨[], List.Pairwise.nil⟩

instance : Inhabited AmbientValues := ⟨empty⟩

/-- Sets a value, in place of the one the key had. -/
def set (a : AmbientValues) (key : String) (value : Json) : AmbientValues :=
  ⟨setEntry key value a.entries, keysIncrease_setEntry key value a.increasing⟩

/-- The values of a list, of which a later entry wins. -/
def ofList (entries : List (String × Json)) : AmbientValues :=
  entries.foldl (fun a (key, value) => a.set key value) empty

/-- The value of a key. -/
def get? (a : AmbientValues) (key : String) : Option Json :=
  (a.entries.find? (·.1 == key)).map (·.2)

/-- The value of a key, if it is a text. -/
def getStr? (a : AmbientValues) (key : String) : Option String := (a.get? key).bind Json.str?

/-- How many values there are. -/
def size (a : AmbientValues) : Nat := a.entries.length

/-- There are none. -/
def isEmpty (a : AmbientValues) : Bool := a.entries.isEmpty

end AmbientValues
end CommandEngine
