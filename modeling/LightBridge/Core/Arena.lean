import Mathlib.Order.Bounds.Defs
import LightBridge.Foundation.Alignment
import LightBridge.Foundation.Slices
import LightBridge.Host

/-! The arena of `bridge-core`: a bump allocator over one aligned buffer, and what its regions are
to each other over a whole run. -/
namespace LightBridge.Core
open Foundation

def cacheLine : Nat := 64

/-- The `CoreError`s of an allocation. -/
inductive LayoutError where
  | arithmeticOverflow (operation : String)
  | invalidAllocationLayout (size align : Nat)
  | allocationFailed (size align : Nat)
  deriving DecidableEq, Repr

/-- `AlignedBuffer`: the bytes of its layout, of which `len` were asked for. -/
structure AlignedBuffer where
  bytes : List UInt8
  alignment : Nat
  len : Nat
  deriving DecidableEq, Repr

/-- `checked_layout`: the size of the layout. `Layout::from_size_align` wants the size and what it
may be rounded up by below `isize::MAX`. -/
def checkedLayout (len align : Nat) : Except LayoutError Nat := do
  ensure (¬ (align = 0 ∨ ¬ align.isPowerOfTwo)) (.invalidAllocationLayout len align)
  let requested := max len 1
  let padded ← okOr (alignUp 64 requested align) (.invalidAllocationLayout len align)
  ensure (padded ≤ isizeMax - (align - 1)) (.invalidAllocationLayout len align)
  pure padded

def AlignedBuffer.new (granted : Bool) (len align : Nat) : Except LayoutError AlignedBuffer := do
  let size ← checkedLayout len align
  ensure (granted = true) (.allocationFailed size align)
  pure { bytes := List.replicate size 0, alignment := align, len }

structure Arena where
  buffer : AlignedBuffer
  baseAlignment : Nat
  logicalCapacity : Nat
  cursor : Nat
  highWater : Nat
  deriving DecidableEq, Repr

/-- The region that an allocation hands out, by its place in the buffer. -/
structure Region where
  start : Nat
  len : Nat
  deriving DecidableEq, Repr

def Region.stop (region : Region) : Nat := region.start + region.len

def Region.Apart (first second : Region) : Prop :=
  first.stop ≤ second.start ∨ second.stop ≤ first.start

/-- How an allocation ends without a region: with `None`, or in the panic of a slice outside the
buffer. -/
inductive AllocationStop where
  | none
  | sliceOutOfRange
  deriving DecidableEq, Repr

namespace Arena

def withCapacityBytes (granted : Bool) (bytes : Nat) : Except LayoutError Arena := do
  let buffer ← AlignedBuffer.new granted bytes cacheLine
  pure { buffer, baseAlignment := buffer.alignment, logicalCapacity := bytes, cursor := 0,
         highWater := 0 }

def withCapacityF32 (granted : Bool) (n : Nat) : Except LayoutError Arena := do
  let bytes ← okOr (checkedMul n 4) (.arithmeticOverflow "arena f32 capacity")
  withCapacityBytes granted bytes

def allocBytes (len align : Nat) : Command Arena AllocationStop Region := do
  let arena ← Command.read
  Command.lift (ensure (¬ (align = 0 ∨ ¬ align.isPowerOfTwo ∨ arena.baseAlignment < align)) .none)
  let start ← Command.lift (okOr (alignUp 64 arena.cursor align) .none)
  let stop ← Command.lift (okOr (checkedAdd start len) .none)
  Command.lift (ensure (stop ≤ arena.logicalCapacity) .none)
  Command.update fun arena => { arena with cursor := stop, highWater := max arena.highWater stop }
  Command.lift (ensure (start ≤ stop ∧ stop ≤ arena.buffer.bytes.length) .sliceOutOfRange)
  Command.update fun arena => { arena with
    buffer :=
      { arena.buffer with
        bytes := overwrite arena.buffer.bytes start (List.replicate (stop - start) 0) } }
  pure ⟨start, stop - start⟩

def allocF32 (n : Nat) : Command Arena AllocationStop Region := do
  let bytes ← Command.lift (okOr (checkedMul n 4) .none)
  allocBytes bytes cacheLine

def reset (arena : Arena) : Arena := { arena with cursor := 0 }

/-- What a region's holder stores in it. -/
def write (region : Region) (bytes : List UInt8) (arena : Arena) : Arena :=
  { arena with
    buffer :=
      { arena.buffer with
        bytes := overwrite arena.buffer.bytes region.start (bytes.take region.len) } }

end Arena

/-! ### Runs -/

/-- What is done with an arena. -/
inductive ArenaOp where
  | allocBytes (len align : Nat)
  | allocF32 (n : Nat)
  | write (region : Region) (bytes : List UInt8)
  | reset
  deriving DecidableEq, Repr

/-- An arena, the regions it has handed out since the last reset and the cursors it has reached. -/
structure ArenaRun where
  arena : Arena
  live : List Region
  cursors : List Nat
  deriving DecidableEq, Repr

namespace ArenaRun

def start (arena : Arena) : ArenaRun := ⟨arena, [], [arena.cursor]⟩

/-- After an allocation, whether it answers a region or not. -/
def after (run : ArenaRun) : Except AllocationStop Region × Arena → ArenaRun
  | (.ok region, arena) => ⟨arena, region :: run.live, arena.cursor :: run.cursors⟩
  | (.error _, arena) => ⟨arena, run.live, arena.cursor :: run.cursors⟩

/-- A region is held from its allocation to the next reset, and only its holder stores in it. -/
def step (run : ArenaRun) : ArenaOp → ArenaRun
  | .allocBytes len align => run.after (Arena.allocBytes len align run.arena)
  | .allocF32 n => run.after (Arena.allocF32 n run.arena)
  | .write region bytes =>
      if region ∈ run.live then { run with arena := run.arena.write region bytes } else run
  | .reset => ⟨run.arena.reset, [], 0 :: run.cursors⟩

def run (arena : Arena) (ops : List ArenaOp) : ArenaRun := ops.foldl step (start arena)

end ArenaRun

/-! ### One allocation -/

/-- An arena of a capacity, as `with_capacity_bytes` makes it and every operation leaves it. -/
structure Arena.Sound (capacity : Nat) (arena : Arena) : Prop where
  base : arena.baseAlignment = cacheLine
  sized : arena.logicalCapacity = capacity
  room : capacity ≤ arena.buffer.bytes.length
  inside : arena.cursor ≤ capacity

/-- What an arena is after it has handed out a region. -/
def Arena.handOut (arena : Arena) (region : Region) : Arena :=
  { arena with
    cursor := region.stop
    highWater := max arena.highWater region.stop
    buffer :=
      { arena.buffer with
        bytes := overwrite arena.buffer.bytes region.start (List.replicate region.len 0) } }

/-- A region that may be handed out. -/
structure Fitting (arena : Arena) (len align : Nat) (region : Region) : Prop where
  length : region.len = len
  aligned : align ∣ region.start
  align_le : align ≤ cacheLine
  behind : arena.cursor ≤ region.start
  inside : region.stop ≤ arena.logicalCapacity

section Allocation
variable {capacity : Nat} {arena : Arena}

theorem checkedLayout_eq_ok {len align size : Nat} (h : checkedLayout len align = .ok size) :
    len ≤ size ∧ align ∣ size ∧ size ≤ isizeMax := by
  simp only [checkedLayout, except_bind_ok_iff, ensure_eq_ok, exists_const, okOr_eq_ok] at h
  obtain ⟨halign, padded, hpadded, hle, hsize⟩ := h
  cases hsize
  have hpower : align.isPowerOfTwo := Classical.not_not.mp fun hnot => halign (.inr hnot)
  obtain ⟨hrequested, -, hdvd, -⟩ := alignUp_eq_some hpower hpadded
  exact ⟨(Nat.le_max_left len 1).trans hrequested, hdvd, hle.trans (Nat.sub_le _ _)⟩

theorem withCapacityBytes_eq_ok {granted : Bool} {bytes : Nat}
    (h : Arena.withCapacityBytes granted bytes = .ok arena) :
    arena.Sound bytes ∧ arena.cursor = 0 ∧ arena.highWater = 0 := by
  simp only [Arena.withCapacityBytes, AlignedBuffer.new, except_bind_ok_iff, ensure_eq_ok,
    exists_const] at h
  obtain ⟨buffer, ⟨size, hsize, -, hbuffer⟩, harena⟩ := h
  cases hbuffer
  cases harena
  have hroom := (checkedLayout_eq_ok hsize).1
  refine ⟨⟨rfl, rfl, ?_, Nat.zero_le bytes⟩, rfl, rfl⟩
  rwa [List.length_replicate]

/-- An allocation hands out a region that fits, or answers `None` and leaves the arena as it is. -/
theorem allocBytes_cases (sound : arena.Sound capacity) (len align : Nat) :
    (∃ region, Fitting arena len align region ∧
      Arena.allocBytes len align arena = (.ok region, arena.handOut region)) ∨
      Arena.allocBytes len align arena = (.error .none, arena) := by
  unfold Arena.allocBytes
  rw [Command.bind_of_ok (Command.read_run arena)]
  by_cases hrefused : align = 0 ∨ ¬ align.isPowerOfTwo ∨ arena.baseAlignment < align
  · right
    rw [ensure, if_neg (not_not_intro hrefused), Command.bind_of_error (Command.lift_run _ _)]
  · rw [ensure, if_pos hrefused, Command.bind_of_ok (Command.lift_run _ _)]
    have hpower : align.isPowerOfTwo := Classical.not_not.mp fun hnot => hrefused (.inr (.inl hnot))
    have hbase : align ≤ cacheLine := by
      rw [← sound.base]
      exact Nat.le_of_not_lt fun hlt => hrefused (.inr (.inr hlt))
    cases hstart : alignUp 64 arena.cursor align with
    | none => exact .inr rfl
    | some start =>
        obtain ⟨hbehind, -, hdvd, -⟩ := alignUp_eq_some hpower hstart
        rw [okOr, Command.bind_of_ok (Command.lift_run _ _)]
        cases hstop : checkedAdd start len with
        | none => exact .inr rfl
        | some stop =>
            obtain ⟨-, rfl⟩ := checkedAdd_eq_some.mp hstop
            rw [okOr, Command.bind_of_ok (Command.lift_run _ _)]
            by_cases hfits : start + len ≤ arena.logicalCapacity
            · left
              have hroom : start + len ≤ arena.buffer.bytes.length :=
                (hfits.trans_eq sound.sized).trans sound.room
              have hlen : start + len - start = len := Nat.add_sub_cancel_left start len
              refine ⟨⟨start, len⟩, ⟨rfl, hdvd, hbase, hbehind, hfits⟩, ?_⟩
              rw [ensure, if_pos hfits, Command.bind_of_ok (Command.lift_run _ _),
                Command.bind_of_ok (Command.update_run _ _), ensure,
                if_pos ⟨Nat.le_add_right start len, hroom⟩,
                Command.bind_of_ok (Command.lift_run _ _),
                Command.bind_of_ok (Command.update_run _ _), hlen]
              rfl
            · right
              rw [ensure, if_neg hfits, Command.bind_of_error (Command.lift_run _ _)]

theorem allocF32_cases (sound : arena.Sound capacity) (n : Nat) :
    (∃ region, Fitting arena (n * 4) cacheLine region ∧
      Arena.allocF32 n arena = (.ok region, arena.handOut region)) ∨
      Arena.allocF32 n arena = (.error .none, arena) := by
  unfold Arena.allocF32
  cases hbytes : checkedMul n 4 with
  | none => exact .inr rfl
  | some bytes =>
      obtain ⟨-, rfl⟩ := checkedMul_eq_some.mp hbytes
      exact allocBytes_cases sound (n * 4) cacheLine

theorem Fitting.room (sound : arena.Sound capacity) {len align : Nat} {region : Region}
    (h : Fitting arena len align region) :
    region.start + (List.replicate region.len (0 : UInt8)).length ≤ arena.buffer.bytes.length := by
  rw [List.length_replicate]
  exact (h.inside.trans_eq sound.sized).trans sound.room

theorem Fitting.sound (sound : arena.Sound capacity) {len align : Nat} {region : Region}
    (h : Fitting arena len align region) :
    (arena.handOut region).Sound capacity := by
  refine ⟨sound.base, sound.sized, ?_, h.inside.trans_eq sound.sized⟩
  rw [Arena.handOut, length_overwrite (h.room sound)]
  exact sound.room

/-- The region is zeroed. -/
theorem Fitting.zeroed (sound : arena.Sound capacity) {len align : Nat} {region : Region}
    (h : Fitting arena len align region) :
    slice (arena.handOut region).buffer.bytes region.start region.len =
      List.replicate region.len 0 := by
  have hslice := slice_overwrite_same (h.room sound)
  rwa [List.length_replicate] at hslice

/-- What lies below the cursor keeps its bytes. -/
theorem Fitting.frame (sound : arena.Sound capacity) {len align : Nat} {region : Region}
    (h : Fitting arena len align region) {other : Region} (hother : other.stop ≤ arena.cursor) :
    slice (arena.handOut region).buffer.bytes other.start other.len =
      slice arena.buffer.bytes other.start other.len :=
  slice_overwrite_disjoint (h.room sound) (.inl (hother.trans h.behind))

end Allocation

/-! ### All that happens to an arena -/

/-- What holds after every run of an arena of a capacity. -/
structure ArenaRun.Sound (capacity : Nat) (run : ArenaRun) : Prop where
  arena : run.arena.Sound capacity
  below : ∀ region ∈ run.live, region.stop ≤ run.arena.cursor
  apart : run.live.Pairwise Region.Apart
  reached : run.arena.highWater ∈ run.cursors
  highest : ∀ cursor ∈ run.cursors, cursor ≤ run.arena.highWater
  current : run.arena.cursor ∈ run.cursors

namespace ArenaRun
variable {capacity : Nat} {run : ArenaRun}

theorem Sound.handOut (sound : run.Sound capacity) {len align : Nat} {region : Region}
    (h : Fitting run.arena len align region) :
    (run.after (.ok region, run.arena.handOut region)).Sound capacity := by
  have hbelow : ∀ other ∈ run.live, other.stop ≤ region.start :=
    fun other hother => (sound.below other hother).trans h.behind
  have hforward : run.arena.cursor ≤ region.stop := h.behind.trans (Nat.le_add_right _ _)
  constructor
  case arena => exact h.sound sound.arena
  case below =>
    intro other hother
    rcases List.mem_cons.mp hother with rfl | hother
    · exact Nat.le_refl _
    · exact (sound.below other hother).trans hforward
  case apart =>
    exact List.pairwise_cons.mpr ⟨fun other hother => .inr (hbelow other hother), sound.apart⟩
  case reached =>
    change max run.arena.highWater region.stop ∈ region.stop :: run.cursors
    rcases Nat.le_total run.arena.highWater region.stop with hle | hle
    · rw [Nat.max_eq_right hle]
      exact List.mem_cons_self
    · rw [Nat.max_eq_left hle]
      exact List.mem_cons_of_mem _ sound.reached
  case highest =>
    intro cursor hcursor
    rcases List.mem_cons.mp hcursor with rfl | hcursor
    · exact Nat.le_max_right _ _
    · exact (sound.highest cursor hcursor).trans (Nat.le_max_left _ _)
  case current => exact List.mem_cons_self

theorem Sound.refused (sound : run.Sound capacity) (stop : AllocationStop) :
    (run.after (.error stop, run.arena)).Sound capacity := by
  constructor
  case arena => exact sound.arena
  case below => exact sound.below
  case apart => exact sound.apart
  case reached => exact List.mem_cons_of_mem _ sound.reached
  case highest =>
    intro cursor hcursor
    rcases List.mem_cons.mp hcursor with rfl | hcursor
    · exact sound.highest _ sound.current
    · exact sound.highest cursor hcursor
  case current => exact List.mem_cons_self

theorem Sound.write (sound : run.Sound capacity) {region : Region} (hlive : region ∈ run.live)
    (bytes : List UInt8) :
    ({ run with arena := run.arena.write region bytes } : ArenaRun).Sound capacity := by
  have hinside : region.start + (bytes.take region.len).length ≤ run.arena.buffer.bytes.length := by
    have hstop : region.start + region.len ≤ run.arena.cursor := sound.below region hlive
    have hlength : (bytes.take region.len).length ≤ region.len := List.length_take_le _ _
    have hcursor := sound.arena.inside
    have hroom := sound.arena.room
    omega
  refine ⟨⟨sound.arena.base, sound.arena.sized, ?_, sound.arena.inside⟩, sound.below, sound.apart,
    sound.reached, sound.highest, sound.current⟩
  rw [Arena.write, length_overwrite hinside]
  exact sound.arena.room

theorem Sound.reset (sound : run.Sound capacity) : (run.step .reset).Sound capacity := by
  constructor
  case arena => exact ⟨sound.arena.base, sound.arena.sized, sound.arena.room, Nat.zero_le capacity⟩
  case below => exact fun _ hregion => absurd hregion List.not_mem_nil
  case apart => exact .nil
  case reached => exact List.mem_cons_of_mem _ sound.reached
  case highest =>
    intro cursor hcursor
    rcases List.mem_cons.mp hcursor with rfl | hcursor
    · exact Nat.zero_le _
    · exact sound.highest cursor hcursor
  case current => exact List.mem_cons_self

theorem Sound.step (sound : run.Sound capacity) (op : ArenaOp) : (run.step op).Sound capacity := by
  cases op with
  | allocBytes len align =>
      rw [ArenaRun.step]
      rcases allocBytes_cases sound.arena len align with ⟨region, hfits, hrun⟩ | hrun
      · rw [hrun]
        exact sound.handOut hfits
      · rw [hrun]
        exact sound.refused .none
  | allocF32 n =>
      rw [ArenaRun.step]
      rcases allocF32_cases sound.arena n with ⟨region, hfits, hrun⟩ | hrun
      · rw [hrun]
        exact sound.handOut hfits
      · rw [hrun]
        exact sound.refused .none
  | write region bytes =>
      rw [ArenaRun.step]
      split
      next hlive => exact sound.write hlive bytes
      next => exact sound
  | reset => exact sound.reset

theorem sound_start {granted : Bool} {bytes : Nat} {arena : Arena}
    (h : Arena.withCapacityBytes granted bytes = .ok arena) :
    (start arena).Sound bytes := by
  obtain ⟨hsound, hcursor, hhigh⟩ := withCapacityBytes_eq_ok h
  constructor
  case arena => exact hsound
  case below => exact fun _ hregion => absurd hregion List.not_mem_nil
  case apart => exact .nil
  case reached =>
    rw [start, hhigh, hcursor]
    exact List.mem_cons_self
  case highest =>
    intro cursor hmem
    rw [List.mem_singleton.mp hmem, hcursor]
    exact Nat.zero_le _
  case current => exact List.mem_cons_self

theorem sound_run {granted : Bool} {bytes : Nat} {arena : Arena}
    (h : Arena.withCapacityBytes granted bytes = .ok arena)
    (ops : List ArenaOp) : (ArenaRun.run arena ops).Sound bytes := by
  have hfold : ∀ (ops : List ArenaOp) (run : ArenaRun), run.Sound bytes →
      (ops.foldl step run).Sound bytes := by
    intro ops
    induction ops with
    | nil => exact fun _ hrun => hrun
    | cons op ops ih => exact fun run hrun => ih (run.step op) (hrun.step op)
  exact hfold ops (start arena) (sound_start h)

end ArenaRun

/-- What an allocation after a run answers: a region of its own that is zeroed, aligned and in the
capacity, where the others keep their bytes; or `None`, with the arena as it was. -/
inductive Allocated (capacity : Nat) (run : ArenaRun) (len align : Nat) :
    Except AllocationStop Region × Arena → Prop where
  | region (region : Region) (after : Arena) (length : region.len = len)
      (aligned : align ∣ region.start) (base : align ≤ run.arena.baseAlignment)
      (inside : region.stop ≤ capacity)
      (zeroed : slice after.buffer.bytes region.start region.len = List.replicate region.len 0)
      (apart : ∀ other ∈ run.live, region.Apart other)
      (kept : ∀ other ∈ run.live, slice after.buffer.bytes other.start other.len =
        slice run.arena.buffer.bytes other.start other.len) :
      Allocated capacity run len align (.ok region, after)
  | none : Allocated capacity run len align (.error .none, run.arena)

theorem ArenaRun.Sound.allocated {capacity : Nat} {run : ArenaRun} (sound : run.Sound capacity)
    {len align : Nat} {region : Region}
    (h : Fitting run.arena len align region) :
    Allocated capacity run len align (.ok region, run.arena.handOut region) := by
  constructor
  case length => exact h.length
  case aligned => exact h.aligned
  case base => exact h.align_le.trans_eq sound.arena.base.symm
  case inside => exact h.inside.trans_eq sound.arena.sized
  case zeroed => exact h.zeroed sound.arena
  case apart => exact fun other hother => .inr ((sound.below other hother).trans h.behind)
  case kept => exact fun other hother => h.frame sound.arena (sound.below other hother)

/-- After every run the regions handed out since the last reset are apart and in the capacity, the
high-water mark is the greatest cursor so far, and so allocates the arena. -/
theorem arena_allocation {granted : Bool} {bytes : Nat} {arena : Arena}
    (h : Arena.withCapacityBytes granted bytes = .ok arena) (ops : List ArenaOp) :
    (ArenaRun.run arena ops).live.Pairwise Region.Apart ∧
      (∀ region ∈ (ArenaRun.run arena ops).live, region.stop ≤ bytes) ∧
      IsGreatest { cursor | cursor ∈ (ArenaRun.run arena ops).cursors }
        (ArenaRun.run arena ops).arena.highWater ∧
      (∀ len align, Allocated bytes (ArenaRun.run arena ops) len align
        (Arena.allocBytes len align (ArenaRun.run arena ops).arena)) ∧
      ∀ n, Allocated bytes (ArenaRun.run arena ops)
        (n * 4) cacheLine (Arena.allocF32 n (ArenaRun.run arena ops).arena) := by
  have hsound := ArenaRun.sound_run h ops
  generalize ArenaRun.run arena ops = run at hsound
  refine ⟨hsound.apart, ?_, ⟨hsound.reached, hsound.highest⟩, ?_, ?_⟩
  · exact fun region hregion => (hsound.below region hregion).trans hsound.arena.inside
  · intro len align
    rcases allocBytes_cases hsound.arena len align with ⟨region, hfits, hrun⟩ | hrun
    · rw [hrun]
      exact hsound.allocated hfits
    · rw [hrun]
      exact .none
  · intro n
    rcases allocF32_cases hsound.arena n with ⟨region, hfits, hrun⟩ | hrun
    · rw [hrun]
      exact hsound.allocated hfits
    · rw [hrun]
      exact .none

/-- An arena of a hundred bytes: five, and a line behind them that is all there is room for. -/
theorem arena_allocation_hundred : ∃ arena, Arena.withCapacityBytes true 100 = .ok arena ∧
    (ArenaRun.run arena [.allocBytes 5 1, .allocF32 9, .allocF32 1]).live = [⟨64, 36⟩, ⟨0, 5⟩] ∧
    (ArenaRun.run arena [.allocBytes 5 1, .allocF32 9, .allocF32 1]).live.Pairwise
      Region.Apart := by
  have harena : Arena.withCapacityBytes true 100 =
      .ok ⟨⟨List.replicate 128 0, 64, 100⟩, 64, 100, 0, 0⟩ := by decide
  exact ⟨_, harena, by decide +kernel, (arena_allocation harena _).1⟩

end LightBridge.Core
