import CommandEngine.Registry.Builder
import Mathlib.Data.List.Nodup

/-!
# What is handed out

Building hands the registrations out one by one, to what stands at the position that an index gives
for their type.  This module says what that comes to, without an index or positions: a descriptor
has what was registered for its type, in the order it was registered, and the candidates in its
election are the offers for its type (`describe`).  The main result is that building makes just
these descriptors, or ends in the same error (`build_eq_tabulated`).

It rests on what one registration does (`modify_findIdx`).  As long as the entries are a function of
the declared types, it changes that function at its own type and nowhere else, because no type is
declared twice.  The rest is by induction on the registrations of a sort (`distribute_map`).
-/
namespace CommandEngine
namespace RegistryBuilder

/-! ## Without positions -/

section Tabulated
variable {D : Type}

/-- The first type of a list that was declared before. -/
def duplicate? : (declared : List String) → List Declaration → Option Declaration
  | _, [] => none
  | declared, d :: rest =>
    if d.type.id ∈ declared then some d else duplicate? (d.type.id :: declared) rest

/-- A registration refers to a declared type of a kind it fits. -/
def checkOne (b : RegistryBuilder D) (registration : Registration) (t : TypeKey) :
    Except RegistryError Unit :=
  match b.types.find? (·.type.id == t.id) with
  | none => .error (.undeclaredType t.name registration)
  | some d =>
    if registration.fits d.kind then .ok ()
    else .error (.kindMismatch t.name d.kind registration)

/-- Checks registrations of one sort, in their order. -/
def checkEach {α : Type} (b : RegistryBuilder D) (registration : Registration)
    (items : List (TypeKey × α)) : Except RegistryError Unit :=
  items.forM fun (t, _) => b.checkOne registration t

/-- All checks that come before the elections; the hierarchy is what they yield. -/
def check (b : RegistryBuilder D) : Except RegistryError Hierarchy := do
  let hierarchy ← (Hierarchy.empty.declareAll b.supertypes).mapError .hierarchyCycle
  match duplicate? [] b.types with
  | some d => throw (.duplicateType d.type.name)
  | none => pure ()
  b.checkEach .handler b.offers
  b.checkEach .incomingValidator b.incomingValidators
  b.checkEach .handlingValidator b.handlingValidators
  b.checkEach .postHandler b.postHandlers
  b.checkEach .eventHandler b.eventHandlers
  b.checkEach .owningService b.owners
  return hierarchy

/-- The candidates for a command with their slots. -/
def candidates (b : RegistryBuilder D) (t : TypeKey) : List (Candidate × Slot D (Handler D)) :=
  (b.offers.filter (·.1.id == t.id)).map fun (command, o) => (o.signature command, o.handler)

/-- The elected handler of a declared command. -/
def elect (b : RegistryBuilder D) (h : Hierarchy) (d : Declaration) :
    Except Conflict (Option (Candidate × Slot D (Handler D))) := do
  let offered := b.candidates d.type
  let winner ← Election.elect h (b.seat d) (offered.map (·.1))
  return winner.bind (offered[·]?)

/-- The descriptor of a declared type. -/
def describe (b : RegistryBuilder D) (h : Hierarchy) (d : Declaration) (index : Nat) :
    Except RegistryError (Descriptor D) := do
  let handler ← if d.kind.isCommand then (b.elect h d).mapError .election else pure none
  return {
    index, handler
    type := d.type
    kind := d.kind
    result := d.result
    incomingValidators := registered b.incomingValidators d.type
    handlingValidators := registered b.handlingValidators d.type
    postHandlers := registered b.postHandlers d.type
    eventHandlers := registered b.eventHandlers d.type
    isHandled := if d.kind.isCommand then handler.isSome
      else d.kind.isRouted && !(registered b.eventHandlers d.type).isEmpty }

/-- The index of declared types. -/
def positions (types : List Declaration) : List (String × Nat) :=
  types.zipIdx.map fun (d, index) => (d.type.id, index)

/-- The registry with the descriptors of the declared types. -/
def tabulated (b : RegistryBuilder D) : Except RegistryError (Registry D) := do
  let hierarchy ← b.check
  let descriptors ← b.types.zipIdx.mapM fun (d, index) => b.describe hierarchy d index
  return ⟨descriptors, positions b.types, hierarchy, b.provider⟩

end Tabulated

/-! ## Declared types -/

section Positions
variable {D : Type} {b : RegistryBuilder D}

/-- No type is declared twice. -/
theorem duplicate?_eq_none {declared : List String} {types : List Declaration} :
    duplicate? declared types = none ↔
      (types.map (·.type.id)).Nodup ∧ ∀ d ∈ types, d.type.id ∉ declared := by
  induction types generalizing declared with
  | nil => simp [duplicate?]
  | cons d types ih =>
    rw [duplicate?]
    by_cases hd : d.type.id ∈ declared
    · rw [if_pos hd]
      constructor
      · intro hnone
        cases hnone
      · rintro ⟨-, hnew⟩
        exact absurd hd (hnew d List.mem_cons_self)
    · rw [if_neg hd, ih, List.map_cons, List.nodup_cons]
      constructor
      · rintro ⟨hnodup, hnew⟩
        refine ⟨⟨?_, hnodup⟩, ?_⟩
        · intro hmem
          obtain ⟨d', hd', hid⟩ := List.mem_map.mp hmem
          exact hnew d' hd' (hid ▸ List.mem_cons_self)
        · intro d' hd'
          rcases List.mem_cons.mp hd' with rfl | hd'
          · exact hd
          · exact fun hmem => hnew d' hd' (List.mem_cons_of_mem _ hmem)
      · rintro ⟨⟨hhead, hnodup⟩, hnew⟩
        refine ⟨hnodup, ?_⟩
        intro d' hd' hmem
        rcases List.mem_cons.mp hmem with hid | hmem
        · exact hhead (List.mem_map.mpr ⟨d', hd', hid⟩)
        · exact hnew d' (List.mem_cons_of_mem _ hd') hmem

/-- The index leads to where a type stands among the declared ones. -/
theorem lookup_zipIdx {types : List Declaration} {k : String} {n : Nat} :
    ((types.zipIdx n).map fun (d, index) => (d.type.id, index)).lookup k =
      (types.findIdx? (·.type.id == k)).map (· + n) := by
  induction types generalizing n with
  | nil => rfl
  | cons d types ih =>
    rw [List.zipIdx_cons, List.map_cons, List.lookup_cons, List.findIdx?_cons, ih]
    by_cases hid : k = d.type.id
    · simp [hid]
    · rw [beq_eq_false_iff_ne.mpr hid]
      simp [Ne.symm hid, Function.comp_def, Nat.add_assoc, Nat.add_comm 1]

theorem lookup_positions {types : List Declaration} {k : String} :
    (positions types).lookup k = types.findIdx? (·.type.id == k) := by
  rw [positions, lookup_zipIdx]
  exact Option.map_id_fun' ▸ rfl

/-- The types that are left are entered behind those that have been. -/
theorem foldlM_enter {byType : List (String × Nat)} {descriptors : List (Descriptor D)}
    {declared : List String} {types : List Declaration} {n : Nat}
    (hdeclared : ∀ k, (byType.lookup k).isSome = true ↔ k ∈ declared) :
    (types.zipIdx n).foldlM (fun (byType, descriptors) (d, index) =>
      if (byType.lookup d.type.id).isSome then
        Except.error (RegistryError.duplicateType d.type.name)
      else .ok (byType ++ [(d.type.id, index)], descriptors ++ [blank d index]))
      (byType, descriptors) =
    match duplicate? declared types with
    | some d => .error (.duplicateType d.type.name)
    | none => .ok (byType ++ (types.zipIdx n).map fun (d, index) => (d.type.id, index),
        descriptors ++ (types.zipIdx n).map fun (d, index) => blank d index) := by
  induction types generalizing byType descriptors declared n with
  | nil => simp [duplicate?]; rfl
  | cons d types ih =>
    rw [List.zipIdx_cons, List.foldlM_cons, duplicate?]
    by_cases hd : d.type.id ∈ declared
    · simp only [(hdeclared _).mpr hd, if_true, if_pos hd]
      rfl
    · have hnew : (byType.lookup d.type.id).isSome ≠ true := fun h => hd ((hdeclared _).mp h)
      have hdeclared' (k : String) : ((byType ++ [(d.type.id, n)]).lookup k).isSome = true ↔
          k ∈ d.type.id :: declared := by
        rw [List.lookup_append, Option.isSome_or, Bool.or_eq_true, hdeclared, List.mem_cons,
          or_comm]
        by_cases hk : k = d.type.id
        · simp [hk]
        · simp [List.lookup_cons, beq_eq_false_iff_ne.mpr hk, hk]
      simp only [if_neg hnew, if_neg hd]
      show List.foldlM _ _ _ = _
      rw [ih hdeclared']
      simp only [List.append_assoc, List.map_cons]
      rfl

theorem enter_eq (types : List Declaration) : enter (D := D) types =
    match duplicate? [] types with
    | some d => .error (.duplicateType d.type.name)
    | none => .ok (positions types, types.zipIdx.map fun (d, index) => blank d index) :=
  foldlM_enter (by simp)

/-- Where a type stands among the declared ones, or behind them if it is not declared. -/
def position (b : RegistryBuilder D) (t : TypeKey) : Nat := b.types.findIdx (·.type.id == t.id)

/-- What passes the check has a position. -/
theorem positionOf_positions {registration : Registration} {t : TypeKey} :
    b.positionOf (positions b.types) registration t =
      (b.checkOne registration t).map fun _ => b.position t := by
  rw [positionOf, checkOne, lookup_positions, List.find?_eq_bind_findIdx?_getElem?, position]
  cases hfind : b.types.findIdx? (·.type.id == t.id) with
  | none => rfl
  | some i =>
    obtain ⟨hlt, hposition⟩ := List.findIdx?_eq_some_iff_findIdx_eq.mp hfind
    simp only [Option.bind_some, List.getElem?_eq_getElem hlt, Option.map_some, hposition]
    split <;> rfl

end Positions

/-! ## Handing out -/

section Distribution
variable {D α β σ : Type} {b : RegistryBuilder D} {registration : Registration}
  {items : List (TypeKey × α)} {push : TypeKey → α → σ → σ}

/-- A change where a key stands is a change of what belongs to that key. -/
theorem modify_findIdx {key : α → String} {xs : List α} (hdistinct : (xs.map key).Nodup)
    (g : α → σ) (k : String) (f : σ → σ) :
    (xs.map g).modify (xs.findIdx (key · == k)) f =
      xs.map fun x => if key x = k then f (g x) else g x := by
  induction xs with
  | nil => rfl
  | cons x xs ih =>
    obtain ⟨hhead, hdistinct⟩ := List.nodup_cons.mp hdistinct
    rw [List.map_cons, List.map_cons, List.findIdx_cons]
    by_cases hkey : key x = k
    · have hothers : ∀ y ∈ xs, g y = if key y = k then f (g y) else g y := by
        intro y hy
        rw [if_neg]
        exact fun hy' => hhead (List.mem_map.mpr ⟨y, hy, hy'.trans hkey.symm⟩)
      rw [beq_iff_eq.mpr hkey, cond_true, List.modify_zero_cons, if_pos hkey,
        List.map_congr_left hothers]
    · rw [beq_eq_false_iff_ne.mpr hkey, cond_false, List.modify_succ_cons, if_neg hkey,
        ih hdistinct]

/-- The entry of a type, once it has got the registrations for the type, one after the other. -/
def gather (push : TypeKey → α → σ → σ) (items : List (TypeKey × α)) (t : TypeKey) (entry : σ) :
    σ :=
  (items.filter (·.1.id == t.id)).foldl (fun entry item => push item.1 item.2 entry) entry

/-- Registrations that are put behind the others in a part of the entry end up there in their order.
-/
theorem gather_append {t : TypeKey} {entry : σ} (f : TypeKey → α → β) (part : σ → List β)
    (put : List β → σ → σ) (hpart : ∀ xs entry, part (put xs entry) = xs)
    (hput : ∀ xs ys entry, put ys (put xs entry) = put ys entry)
    (hsame : ∀ entry, put (part entry) entry = entry) :
    gather (fun t a entry => put (part entry ++ [f t a]) entry) items t entry =
      put (part entry ++ (items.filter (·.1.id == t.id)).map fun item => f item.1 item.2)
        entry := by
  unfold gather
  induction items.filter (·.1.id == t.id) generalizing entry with
  | nil =>
    rw [List.map_nil, List.append_nil, hsame]
    rfl
  | cons item items ih =>
    rw [List.foldl_cons, ih, hpart, hput, List.append_assoc, List.map_cons]
    rfl

theorem gather_cons {t t' : TypeKey} {a : α} {entry : σ} :
    gather push ((t, a) :: items) t' entry =
      gather push items t' (if t'.id = t.id then push t a entry else entry) := by
  by_cases hid : t'.id = t.id
  · simp [gather, hid]
  · simp [gather, hid, Ne.symm hid]

theorem distribute_cons {byType : List (String × Nat)} {t : TypeKey} {a : α} {entries : List σ} :
    b.distribute byType registration ((t, a) :: items) push entries =
      b.positionOf byType registration t >>= fun i =>
        b.distribute byType registration items push (entries.modify i (push t a)) := by
  rw [distribute, List.foldlM_cons, bind_assoc]
  rfl

section Distinct
variable (hdistinct : (b.types.map (·.type.id)).Nodup)
include hdistinct

/-- What is handed to a type changes its entry and no other. -/
theorem modify_position (g : Declaration × Nat → σ) (t : TypeKey) (f : σ → σ) :
    (b.types.zipIdx.map g).modify (b.position t) f =
      b.types.zipIdx.map fun p => if p.1.type.id = t.id then f (g p) else g p := by
  have hkeys : (b.types.zipIdx.map fun p => p.1.type.id) = b.types.map (·.type.id) := by
    conv_rhs => rw [← List.zipIdx_map_fst 0 b.types, List.map_map]
    rfl
  have hposition : b.position t = b.types.zipIdx.findIdx (·.1.type.id == t.id) := by
    rw [position, ← List.zipIdx_map_fst 0 b.types, List.findIdx_map, List.zipIdx_map_fst]
    rfl
  rw [hposition]
  exact modify_findIdx (hkeys ▸ hdistinct) g t.id f

/-- **Every type gets the registrations for it**, once they have passed their checks. -/
theorem distribute_map (g : Declaration × Nat → σ) :
    b.distribute (positions b.types) registration items push (b.types.zipIdx.map g) =
      (b.checkEach registration items).map fun _ =>
        b.types.zipIdx.map fun p => gather push items p.1.type (g p) := by
  -- `g` is what the entries have become so far
  induction items generalizing g with
  | nil => rfl
  | cons item items ih =>
    obtain ⟨t, a⟩ := item
    have hcheck : b.checkEach registration ((t, a) :: items) =
        b.checkOne registration t >>= fun _ => b.checkEach registration items := rfl
    rw [distribute_cons, positionOf_positions, hcheck]
    simp only [gather_cons]
    cases b.checkOne registration t with
    | error e => rfl
    | ok u =>
      show b.distribute _ _ _ _ ((b.types.zipIdx.map g).modify (b.position t) (push t a)) = _
      rw [modify_position hdistinct, ih]
      rfl

/-- What is handed out may be handed out beforehand. -/
theorem distribute_bind (g : Declaration × Nat → σ) (next : List σ → Except RegistryError β) :
    b.distribute (positions b.types) registration items push (b.types.zipIdx.map g) >>= next =
      b.checkEach registration items >>= fun _ =>
        next (b.types.zipIdx.map fun p => gather push items p.1.type (g p)) := by
  rw [distribute_map hdistinct]
  cases b.checkEach registration items <;> rfl

end Distinct

/-- Owning services are only checked. -/
theorem forM_positionOf : (items.forM fun (t, _) =>
      discard (b.positionOf (positions b.types) registration t)) =
    b.checkEach registration items := by
  have hone (t : TypeKey) : discard (b.positionOf (positions b.types) registration t) =
      b.checkOne registration t := by
    rw [positionOf_positions]
    cases b.checkOne registration t <;> rfl
  simp only [hone]
  rfl

end Distribution

/-! ## The layout -/

section Layout
variable {D : Type} {b : RegistryBuilder D} {h : Hierarchy}

theorem bind_map {ε α β γ : Type} {x : Except ε α} {f : α → Except ε β} {g : β → γ} :
    (x >>= f).map g = x >>= fun a => (f a).map g := by
  cases x <;> rfl

/-- The descriptor of a declared type before the elections. -/
def filled (b : RegistryBuilder D) (p : Declaration × Nat) : Descriptor D :=
  ⟨p.2, p.1.type, p.1.kind, p.1.result, none, registered b.incomingValidators p.1.type,
    registered b.handlingValidators p.1.type, registered b.postHandlers p.1.type,
    registered b.eventHandlers p.1.type, false⟩

/-- The offers end up in the row of their type, with their signatures. -/
theorem gather_offers {t : TypeKey} :
    gather (fun t o offered => offered ++ [(o.signature t, o.handler)]) b.offers t [] =
      b.candidates t :=
  gather_append (fun t (o : Offer D) => (o.signature t, o.handler)) id (fun offered _ => offered)
    (fun _ _ => rfl) (fun _ _ _ => rfl) (fun _ => rfl)

/-- All other registrations end up in the lists of the descriptor of their type. -/
theorem gather_blank {p : Declaration × Nat} :
    gather (fun _ h d => { d with eventHandlers := d.eventHandlers ++ [h] }) b.eventHandlers
      p.1.type
      (gather (fun _ p d => { d with postHandlers := d.postHandlers ++ [p] }) b.postHandlers
        p.1.type
        (gather (fun _ v d => { d with handlingValidators := d.handlingValidators ++ [v] })
          b.handlingValidators p.1.type
          (gather (fun _ v d => { d with incomingValidators := d.incomingValidators ++ [v] })
            b.incomingValidators p.1.type (blank p.1 p.2)))) = b.filled p := by
  have hincoming (d : Descriptor D) := @gather_append _ _ _ b.incomingValidators p.1.type d
    (fun _ v => v) (·.incomingValidators) (fun vs d => { d with incomingValidators := vs })
    (fun _ _ => rfl) (fun _ _ _ => rfl) (fun _ => rfl)
  have hhandling (d : Descriptor D) := @gather_append _ _ _ b.handlingValidators p.1.type d
    (fun _ v => v) (·.handlingValidators) (fun vs d => { d with handlingValidators := vs })
    (fun _ _ => rfl) (fun _ _ _ => rfl) (fun _ => rfl)
  have hpost (d : Descriptor D) := @gather_append _ _ _ b.postHandlers p.1.type d
    (fun _ v => v) (·.postHandlers) (fun vs d => { d with postHandlers := vs })
    (fun _ _ => rfl) (fun _ _ _ => rfl) (fun _ => rfl)
  have hevent (d : Descriptor D) := @gather_append _ _ _ b.eventHandlers p.1.type d
    (fun _ v => v) (·.eventHandlers) (fun vs d => { d with eventHandlers := vs })
    (fun _ _ => rfl) (fun _ _ _ => rfl) (fun _ => rfl)
  rw [hincoming, hhandling, hpost, hevent]
  rfl

/-- **The layout**: the index of the declared types, and for each of them what was registered. -/
theorem layOut_eq : b.layOut = b.check.map fun h =>
    ⟨h, positions b.types, b.types.zipIdx.map b.filled,
      b.types.zipIdx.map fun p => b.candidates p.1.type⟩ := by
  unfold layOut check
  cases Hierarchy.empty.declareAll b.supertypes with
  | error cycle => rfl
  | ok h =>
    show (enter b.types >>= fun _ => _) = Except.map _ (_ >>= fun _ => _)
    rw [enter_eq]
    cases hduplicate : duplicate? [] b.types with
    | some d => rfl
    | none =>
      have hdistinct := (duplicate?_eq_none.mp hduplicate).1
      show (b.distribute (positions b.types) .handler b.offers _ (List.map _ _) >>= _) = _
      rw [List.map_map]
      show (b.distribute _ _ _ _ (b.types.zipIdx.map fun _ => []) >>= fun _ =>
        b.distribute _ _ _ _ (b.types.zipIdx.map fun p => blank p.1 p.2) >>= _) = _
      simp only [distribute_bind hdistinct, forM_positionOf, gather_offers, gather_blank]
      show _ = Except.map _ (b.checkEach .handler b.offers >>= fun _ => _)
      simp only [bind_map]
      rfl

/-- An entry that is taken out is the one that stood there. -/
theorem swapRemove_fst {α : Type} (entries : List α) (i : Nat) :
    (swapRemove entries i).map (·.1) = entries[i]? := by
  unfold swapRemove
  cases hentry : entries[i]? with
  | none => rfl
  | some entry =>
    have hne : entries ≠ [] := List.ne_nil_of_mem (List.mem_of_getElem? hentry)
    rw [List.getLast?_eq_some_getLast hne]
    rfl

/-- What completes a descriptor is the election among the candidates for its type. -/
theorem complete_filled {p : Declaration × Nat} :
    b.complete h (b.filled p) (b.candidates p.1.type) = b.describe h p.1 p.2 := by
  have hseated (winner : Option Nat) :
      (winner.bind fun w => (swapRemove (b.candidates p.1.type) w).map (·.1)) =
        winner.bind ((b.candidates p.1.type)[·]?) :=
    congrArg winner.bind (funext fun w => swapRemove_fst _ w)
  have helect : b.elect h p.1 =
      Election.elect h (b.seat p.1) ((b.candidates p.1.type).map (·.1)) >>=
        fun winner => pure (winner.bind ((b.candidates p.1.type)[·]?)) := rfl
  unfold complete describe
  rw [helect]
  show (if p.1.kind.isCommand = true then _ else _) = _
  split
  · show ((Election.elect h (b.seat p.1) ((b.candidates p.1.type).map (·.1))).mapError _ >>=
      fun winner => pure _) = _
    simp only [hseated]
    cases Election.elect h (b.seat p.1) ((b.candidates p.1.type).map (·.1)) with
    | error e => rfl
    | ok winner => rfl
  · rfl

/-- **Building makes the descriptors of the declared types**, or ends in the first error. -/
theorem build_eq_tabulated (b : RegistryBuilder D) : b.build = b.tabulated := by
  have hdescriptors (h : Hierarchy) : (((b.types.zipIdx.map b.filled).zip
      (b.types.zipIdx.map fun p => b.candidates p.1.type)).mapM fun e => b.complete h e.1 e.2) =
      b.types.zipIdx.mapM fun p => b.describe h p.1 p.2 := by
    rw [List.zip_map', List.mapM_map]
    exact congrArg (b.types.zipIdx.mapM ·) (funext fun p => complete_filled)
  rw [build, tabulated, layOut_eq]
  cases b.check with
  | error e => rfl
  | ok h =>
    show (((b.types.zipIdx.map b.filled).zip (b.types.zipIdx.map fun p =>
      b.candidates p.1.type)).mapM (fun e => b.complete h e.1 e.2) >>= _) = _
    rw [hdescriptors]
    rfl

end Layout
end RegistryBuilder
end CommandEngine
