import CommandEngine.Chain

/-!
# Which queued events survive

The marks of a chain say when every event was queued and how every frame went.  Frames are counted
from the root's, which is frame `0`, so frame `j` is on the stack while the stack is deeper than
`j`.  An event that is queued waits on the frame on top, and it has to get past every frame that is
on the stack at that moment: it is gone as soon as one of them is closed after a failure, is closed
with its events withheld, or is dropped after a panic.  `survivors` reads the events that are left
off the marks alone.

The marks of an operation stand in a simple relation to the frames it was begun on.  Either it
`Returns`: the frames below are as they were, and the frame on top has got the survivors of the
operation.  Or a panic is on its way and the operation `Unwinds`: it leaves frames of its own, and
dropping these is all that it takes to make it an operation that returns.
-/
namespace CommandEngine

namespace Mark

/-- The depth of the stack after a mark. -/
def depthAfter (depth : Nat) : Mark → Nat
  | opened _ => depth + 1
  | closed _ => depth - 1
  | cut d => min depth d
  | ended => 0
  | _ => depth

/-- The frames that a mark drops lose their events. -/
def loses : Mark → Bool
  | closed .failed | closed .withheld | cut _ => true
  | _ => false

/-- The event that a mark queues. -/
def queued? : Mark → Option Object
  | queued event => some event
  | _ => none

/-- A mark that has to do neither with frames nor with events that wait on them. -/
def isQuiet : Mark → Bool
  | opened _ | closed _ | cut _ | ended | queued _ => false
  | _ => true

theorem depthAfter_of_isQuiet {m : Mark} (hm : m.isQuiet) (depth : Nat) :
    m.depthAfter depth = depth := by
  cases m with
  | opened | closed | cut | ended | queued => cases hm
  | _ => rfl

theorem queued?_of_isQuiet {m : Mark} (hm : m.isQuiet) : m.queued? = none := by
  cases m with
  | opened | closed | cut | ended | queued => cases hm
  | _ => rfl

theorem queued?_of_loses {m : Mark} (hm : m.loses) : m.queued? = none := by
  cases m with
  | queued => cases hm
  | _ => rfl

end Mark

namespace Chain

/-! ## The fate of a frame -/

/-- The depth of the stack after marks. -/
def depthAfter (depth : Nat) (ms : List Mark) : Nat := ms.foldl Mark.depthAfter depth

/-- Frame `j` of a stack is dropped with its events: the first mark that leaves the stack no deeper
than `j` decides. -/
def frameLost (j : Nat) : (depth : Nat) → List Mark → Bool
  | _, [] => false
  | depth, m :: ms =>
    if m.depthAfter depth ≤ j then m.loses else frameLost j (m.depthAfter depth) ms

/-- Some frame of a stack is dropped with its events. -/
def isLost (depth : Nat) (ms : List Mark) : Bool := (List.range depth).any (frameLost · depth ms)

/-- The queued events no frame of which is dropped with its events, in the order of their marks. -/
def survivors : (depth : Nat) → List Mark → List Object
  | _, [] => []
  | depth, m :: ms =>
    (if isLost (m.depthAfter depth) ms then [] else m.queued?.toList) ++
      survivors (m.depthAfter depth) ms

section Fate

variable {j k depth : Nat} {m : Mark} {ms before after : List Mark}

@[simp] theorem depthAfter_cons : depthAfter depth (m :: ms) = depthAfter (m.depthAfter depth) ms :=
  rfl

@[simp] theorem depthAfter_append :
    depthAfter depth (before ++ after) = depthAfter (depthAfter depth before) after :=
  List.foldl_append

theorem isLost_eq_false :
    isLost depth ms = false ↔ ∀ j < depth, frameLost j depth ms = false := by
  simp [isLost]

/-- The stack never gets less deep than `k`. -/
def Above (k : Nat) : (depth : Nat) → List Mark → Prop
  | depth, [] => k ≤ depth
  | depth, m :: ms => k ≤ depth ∧ Above k (m.depthAfter depth) ms

theorem above_zero : Above 0 depth ms := by
  induction ms generalizing depth with
  | nil => exact Nat.zero_le _
  | cons m ms ih => exact ⟨Nat.zero_le _, ih⟩

theorem Above.start (h : Above k depth ms) : k ≤ depth := by
  cases ms with
  | nil => exact h
  | cons m ms => exact h.1

theorem Above.mono (hj : j ≤ k) (h : Above k depth ms) : Above j depth ms := by
  induction ms generalizing depth with
  | nil => exact Nat.le_trans hj h
  | cons m ms ih => exact ⟨Nat.le_trans hj h.1, ih h.2⟩

theorem Above.back (h : Above k depth ms) : k ≤ depthAfter depth ms := by
  induction ms generalizing depth with
  | nil => exact h
  | cons m ms ih => exact ih h.2

theorem above_append :
    Above k depth (before ++ after) ↔
      Above k depth before ∧ Above k (depthAfter depth before) after := by
  induction before generalizing depth with
  | nil => exact ⟨fun h => ⟨h.start, h⟩, fun h => h.2⟩
  | cons m ms ih =>
    rw [List.cons_append, Above, Above, ih, and_assoc]
    rfl

/-- While frame `j` is on the stack its fate is open. -/
theorem frameLost_append_of_above (h : Above (j + 1) depth before) :
    frameLost j depth (before ++ after) = frameLost j (depthAfter depth before) after := by
  induction before generalizing depth with
  | nil => rfl
  | cons m ms ih =>
    have hdeep : ¬ m.depthAfter depth ≤ j := Nat.not_le.mpr h.2.start
    rw [List.cons_append, frameLost, if_neg hdeep, ih h.2]
    rfl

theorem Above.frameLost (h : Above (j + 1) depth ms) : frameLost j depth ms = false := by
  have happ : Chain.frameLost j depth (ms ++ []) = Chain.frameLost j (depthAfter depth ms) [] :=
    frameLost_append_of_above h
  rwa [List.append_nil] at happ

/-- Marks within which no frame of a stack is dropped do not decide the fate of one. -/
theorem Above.isLost (h : Above depth depth ms) : isLost depth ms = false :=
  isLost_eq_false.mpr fun _ hj => (h.mono hj).frameLost

/-- The fate of a frame that has gone is settled. -/
theorem frameLost_append_of_gone (hj : j < depth) (hgone : depthAfter depth before ≤ j) :
    frameLost j depth (before ++ after) = frameLost j depth before := by
  induction before generalizing depth with
  | nil => exact absurd hj (Nat.not_lt.mpr hgone)
  | cons m ms ih =>
    rw [List.cons_append, frameLost, frameLost]
    by_cases hm : m.depthAfter depth ≤ j
    · rw [if_pos hm, if_pos hm]
    · rw [if_neg hm, if_neg hm]
      exact ih (Nat.lt_of_not_le hm) hgone

/-- Marks that do not lose a frame leave its fate as it was. -/
theorem frameLost_append_of_kept (hkept : frameLost j (depthAfter depth before) after = false) :
    frameLost j depth (before ++ after) = frameLost j depth before := by
  induction before generalizing depth with
  | nil => exact hkept
  | cons m ms ih =>
    rw [List.cons_append, frameLost, frameLost]
    by_cases hm : m.depthAfter depth ≤ j
    · rw [if_pos hm, if_pos hm]
    · rw [if_neg hm, if_neg hm]
      exact ih hkept

theorem isLost_append (hkept : isLost (depthAfter depth before) after = false) :
    isLost depth (before ++ after) = isLost depth before := by
  -- a frame that has gone is settled, and one that is still there is kept by what follows
  have hframe : ∀ j < depth, frameLost j depth (before ++ after) = frameLost j depth before := by
    intro j hj
    by_cases hgone : depthAfter depth before ≤ j
    · exact frameLost_append_of_gone hj hgone
    · exact frameLost_append_of_kept (isLost_eq_false.mp hkept j (Nat.lt_of_not_le hgone))
  rw [Bool.eq_iff_iff]
  simp only [isLost, List.any_eq_true, List.mem_range]
  constructor
  · rintro ⟨j, hj, hlost⟩
    exact ⟨j, hj, hframe j hj ▸ hlost⟩
  · rintro ⟨j, hj, hlost⟩
    exact ⟨j, hj, (hframe j hj).symm ▸ hlost⟩

/-! ## Survivors -/

@[simp] theorem survivors_nil : survivors depth [] = [] := rfl

theorem survivors_append (hkept : isLost (depthAfter depth before) after = false) :
    survivors depth (before ++ after) =
      survivors depth before ++ survivors (depthAfter depth before) after := by
  induction before generalizing depth with
  | nil => rfl
  | cons m ms ih =>
    rw [depthAfter_cons] at hkept ⊢
    rw [List.cons_append, survivors, survivors, isLost_append hkept, ih hkept, List.append_assoc]

/-- Nothing survives that was queued on a frame which is then dropped with its events. -/
theorem survivors_append_of_loses (habove : Above (j + 1) depth ms) (hm : m.loses)
    (hgone : m.depthAfter (depthAfter depth ms) ≤ j) : survivors depth (ms ++ [m]) = [] := by
  induction ms generalizing depth with
  | nil =>
    rw [List.nil_append, survivors, Mark.queued?_of_loses hm]
    simp
  | cons m' ms ih =>
    rw [depthAfter_cons] at hgone
    -- frame `j` is on the stack at every mark before the last, which therefore decides
    have hframe : frameLost j (m'.depthAfter depth) (ms ++ [m]) = true := by
      rw [frameLost_append_of_above habove.2, frameLost, if_pos hgone, hm]
    have hlost : isLost (m'.depthAfter depth) (ms ++ [m]) = true :=
      List.any_eq_true.mpr ⟨j, List.mem_range.mpr habove.2.start, hframe⟩
    rw [List.cons_append, survivors, if_pos hlost, ih habove.2 hgone, List.nil_append]

/-- What survives is settled by the marks that drop frames with their events. -/
theorem survivors_append_of_keeps (hm : m.loses = false) (hqueued : m.queued? = none) :
    survivors depth (ms ++ [m]) = survivors depth ms := by
  have hkept : isLost (depthAfter depth ms) [m] = false := by
    refine isLost_eq_false.mpr fun j _ => ?_
    rw [frameLost]
    split
    · exact hm
    · rfl
  rw [survivors_append hkept, survivors, hqueued, survivors, List.append_nil]
  simp

/-- A single mark that does not move the stack has the event it queues, if it queues one. -/
theorem survivors_singleton (hm : m.depthAfter depth = depth) :
    survivors depth [m] = m.queued?.toList := by
  have hopen : isLost depth [] = false := isLost_eq_false.mpr fun _ _ => rfl
  rw [survivors, hm, hopen, survivors, List.append_nil]
  rfl

end Fate

/-! ## Joining events to the frame on top -/

section Frames

variable {fs : List Frame} {f : Frame} {events more : List Object}

@[simp] theorem length_joinTop : (joinTop events fs).length = fs.length := List.length_modify ..

theorem joinTop_concat :
    joinTop events (fs ++ [f]) = fs ++ [{ f with pending := f.pending ++ events }] := by
  rw [joinTop, List.length_append, List.length_singleton, Nat.add_sub_cancel]
  induction fs with
  | nil => rfl
  | cons g gs ih => exact congrArg (g :: ·) ih

@[simp] theorem joinTop_nil : joinTop [] fs = fs := by
  rcases fs.eq_nil_or_concat with rfl | ⟨lower, top, rfl⟩
  · rfl
  · rw [List.concat_eq_append, joinTop_concat, List.append_nil]

theorem joinTop_joinTop : joinTop more (joinTop events fs) = joinTop (events ++ more) fs := by
  rcases fs.eq_nil_or_concat with rfl | ⟨lower, top, rfl⟩
  · rfl
  · rw [List.concat_eq_append, joinTop_concat, joinTop_concat, joinTop_concat, List.append_assoc]

end Frames

/-! ## What an operation does to the frames below it -/

/-- Marks that never drop a frame of a stack and drop every frame they open. -/
structure Balanced (depth : Nat) (ms : List Mark) : Prop where
  above : Above depth depth ms
  back : depthAfter depth ms = depth

/-- The marks of an operation that is over, and what it made of the frames it was begun on: these
are still there, and the one on top has got the events that survived the operation. -/
structure Returns (fs : List Frame) (ms : List Mark) (fs' : List Frame) : Prop where
  balanced : Balanced fs.length ms
  frames : fs' = joinTop (survivors fs.length ms) fs

/-- The marks and frames of an operation that a panic has stopped: once the frames that it left are
dropped, it is as one that returns. -/
def Unwinds (fs : List Frame) (ms : List Mark) (fs' : List Frame) : Prop :=
  Returns fs (ms ++ [.cut fs.length]) (fs'.take fs.length)

/-- The marks and frames of an operation, stopped by a panic or not. -/
def Passage (panicked : Bool) (fs : List Frame) (ms : List Mark) (fs' : List Frame) : Prop :=
  if panicked then Unwinds fs ms fs' else Returns fs ms fs'

section Passages

variable {depth : Nat} {fs mid fs' : List Frame} {f : Frame} {m : Mark}
  {ms before after : List Mark} {command event : Object} {fate : Fate} {panicked : Bool}

theorem balanced_nil : Balanced depth [] := ⟨Nat.le_refl _, rfl⟩

theorem balanced_still (hm : m.depthAfter depth = depth) : Balanced depth [m] :=
  ⟨⟨Nat.le_refl _, Nat.le_of_eq hm.symm⟩, hm⟩

theorem Balanced.append (h₁ : Balanced depth before) (h₂ : Balanced depth after) :
    Balanced depth (before ++ after) := by
  constructor
  · exact above_append.mpr ⟨h₁.above, h₁.back.symm ▸ h₂.above⟩
  · rw [depthAfter_append, h₁.back, h₂.back]

/-- The survivors of operations one after the other. -/
theorem Balanced.survivors_append (h₁ : Balanced depth before) (h₂ : Balanced depth after) :
    survivors depth (before ++ after) = survivors depth before ++ survivors depth after := by
  have hkept : isLost (depthAfter depth before) after = false := h₁.back.symm ▸ h₂.above.isLost
  rw [Chain.survivors_append hkept, h₁.back]

theorem Returns.refl : Returns fs [] fs := ⟨balanced_nil, joinTop_nil.symm⟩

theorem Returns.length (h : Returns fs ms fs') : fs'.length = fs.length := by
  rw [h.frames, length_joinTop]

theorem Returns.trans (h₁ : Returns fs before mid) (h₂ : Returns mid after fs') :
    Returns fs (before ++ after) fs' := by
  have hafter := h₁.length ▸ h₂.balanced
  refine ⟨h₁.balanced.append hafter, ?_⟩
  rw [h₁.balanced.survivors_append hafter, ← joinTop_joinTop, ← h₁.frames, h₂.frames, h₁.length]

/-- A mark that does not move the stack queues its event on the frame on top. -/
theorem returns_still (hm : m.depthAfter fs.length = fs.length) :
    Returns fs [m] (joinTop m.queued?.toList fs) :=
  ⟨balanced_still hm, by rw [survivors_singleton hm]⟩

theorem returns_queued : Returns fs [.queued event] (joinTop [event] fs) := returns_still rfl

theorem returns_quiet (hm : m.isQuiet) : Returns fs [m] fs := by
  have hstill := returns_still (Mark.depthAfter_of_isQuiet hm fs.length)
  rwa [Mark.queued?_of_isQuiet hm, Option.toList_none, joinTop_nil] at hstill

theorem returns_quiets (hms : ∀ m ∈ ms, m.isQuiet) : Returns fs ms fs := by
  induction ms with
  | nil => exact .refl
  | cons m ms ih =>
    rw [List.forall_mem_cons] at hms
    exact (returns_quiet hms.1).trans (ih hms.2)

theorem Returns.unwinds (h₁ : Returns fs before mid) (h₂ : Unwinds mid after fs') :
    Unwinds fs (before ++ after) fs' := by
  have htrans := h₁.trans h₂
  rwa [← List.append_assoc, h₁.length] at htrans

theorem unwinds_refl : Unwinds fs [] fs := by
  have hcut : Returns fs [.cut fs.length] (joinTop [] fs) := returns_still (Nat.min_self _)
  rw [joinTop_nil] at hcut
  rwa [Unwinds, List.nil_append, List.take_length]

theorem passage_refl : Passage panicked fs [] fs := by
  cases panicked with
  | false => exact Returns.refl
  | true => exact unwinds_refl

theorem Returns.passage (h₁ : Returns fs before mid) (h₂ : Passage panicked mid after fs') :
    Passage panicked fs (before ++ after) fs' := by
  cases panicked with
  | false => exact h₁.trans h₂
  | true => exact h₁.unwinds h₂

theorem passage_quiets (hms : ∀ m ∈ ms, m.isQuiet) : Passage panicked fs ms fs := by
  have hpassage : Passage panicked fs (ms ++ []) fs := (returns_quiets hms).passage passage_refl
  rwa [List.append_nil] at hpassage

/-- Without frames there is nothing to keep. -/
theorem passage_empty (hback : depthAfter 0 ms = 0) : Passage panicked [] ms [] := by
  have hcut : depthAfter 0 (ms ++ [.cut 0]) = 0 := by
    rw [depthAfter_append]
    exact Nat.min_eq_right (Nat.zero_le _)
  cases panicked with
  | false => exact ⟨⟨above_zero, hback⟩, rfl⟩
  | true => exact ⟨⟨above_zero, hcut⟩, rfl⟩

/-! ### A nested command -/

/-- Opening a frame queues nothing. -/
theorem survivors_opened : survivors depth (.opened command :: ms) = survivors (depth + 1) ms := by
  rw [survivors]
  cases isLost (Mark.depthAfter depth (.opened command)) ms <;> rfl

/-- An operation one frame higher, between the marks that open and drop its frame. -/
theorem balanced_opened (habove : Above (depth + 1) (depth + 1) ms)
    (hback : m.depthAfter (depthAfter (depth + 1) ms) = depth) :
    Balanced depth (.opened command :: (ms ++ [m])) := by
  constructor
  · have hend : depth ≤ depthAfter (depth + 1) ms := Nat.le_of_succ_le habove.back
    refine ⟨Nat.le_refl _, above_append.mpr ⟨habove.mono (Nat.le_succ _), hend, ?_⟩⟩
    exact Nat.le_of_eq hback.symm
  · rw [depthAfter_cons, depthAfter_append]
    exact hback

/-- A nested command whose frame is dropped with its events changes nothing below. -/
theorem returns_lost (habove : Above (fs.length + 1) (fs.length + 1) ms) (hm : m.loses)
    (hback : m.depthAfter (depthAfter (fs.length + 1) ms) = fs.length) :
    Returns fs (.opened command :: (ms ++ [m])) fs := by
  refine ⟨balanced_opened habove hback, ?_⟩
  rw [survivors_opened, survivors_append_of_loses habove hm (Nat.le_of_eq hback), joinTop_nil]

theorem Returns.balanced_concat (h : Returns (fs ++ [f]) ms mid) :
    Balanced (fs.length + 1) ms := by
  have hbalanced := h.balanced
  rwa [List.length_append, List.length_singleton] at hbalanced

/-- The frame of a nested command when the command is over. -/
theorem Returns.frames_concat (h : Returns (fs ++ [f]) ms mid) :
    mid = fs ++ [{ f with pending := f.pending ++ survivors (fs.length + 1) ms }] := by
  have hframes := h.frames
  rwa [joinTop_concat, List.length_append, List.length_singleton] at hframes

theorem Returns.take_concat (h : Returns (fs ++ [f]) ms mid) : mid.take fs.length = fs := by
  rw [h.frames_concat, List.take_left]

/-- The events that wait on the frame of a nested command are its survivors. -/
theorem Returns.pending_concat (h : Returns (fs ++ [⟨command, []⟩]) ms mid) :
    (mid[fs.length]?.map (·.pending)).getD [] = survivors (fs.length + 1) ms := by
  rw [h.frames_concat, List.getElem?_concat_length]
  exact List.nil_append _

theorem Returns.depthAfter_closed (h : Returns (fs ++ [f]) ms mid) :
    (Mark.closed fate).depthAfter (depthAfter (fs.length + 1) ms) = fs.length := by
  rw [h.balanced_concat.back]
  rfl

/-- A nested command that is closed with its events lost. -/
theorem Returns.closed (h : Returns (fs ++ [f]) ms mid) (hfate : (Mark.closed fate).loses) :
    Returns fs (.opened command :: (ms ++ [.closed fate])) (mid.take fs.length) := by
  rw [h.take_concat]
  exact returns_lost h.balanced_concat.above hfate h.depthAfter_closed

/-- A nested command that is closed with its events joined to those of the frame below. -/
theorem Returns.joined (h : Returns (fs ++ [f]) ms mid) :
    Returns fs (.opened command :: (ms ++ [.closed .joined]))
      (joinTop (survivors (fs.length + 1) ms) (mid.take fs.length)) := by
  refine ⟨balanced_opened h.balanced_concat.above h.depthAfter_closed, ?_⟩
  rw [survivors_opened, survivors_append_of_keeps rfl rfl, h.take_concat]

/-- A panic in a nested command leaves one frame more to drop. -/
theorem Unwinds.opened (h : Unwinds (fs ++ [f]) ms fs') :
    Unwinds fs (.opened command :: ms) fs' := by
  -- the frames that are left do not matter, since the cut comes after the marks that left them
  have habove := (above_append.mp h.balanced_concat.above).1
  have hback : (Mark.cut fs.length).depthAfter (depthAfter (fs.length + 1) ms) = fs.length :=
    Nat.min_eq_right (Nat.le_of_succ_le habove.back)
  have htake : fs'.take fs.length = fs := by
    have hlower := h.take_concat
    rwa [List.take_take, List.length_append, Nat.min_eq_left (Nat.le_add_right ..)] at hlower
  rw [Unwinds, htake]
  exact returns_lost habove rfl hback

end Passages
end Chain
end CommandEngine
