import LightBridge.Io.PositionedFile

/-! The loop of `PositionedFile` over the partial reads of the operating system, for every schedule
of its answers. -/
namespace LightBridge.Io
open Foundation

/-- A file as it is read: its bytes, and what each call of `read_at_once` answers for an offset and
the length of the buffer, an error or how many bytes it has stored. -/
structure OsFile where
  bytes : List UInt8
  answer : Nat → Nat → Nat → Except String Nat
  bounded : ∀ call offset length n, answer call offset length = .ok n → n ≤ length ∧
    (n ≠ 0 → offset + n ≤ bytes.length)

/-- `PositionedFile`, over its file. -/
structure PositionedReader where
  file : OsFile
  path : String
  length : Nat
  maxRequestBytes : Nat
  length_le : length ≤ usizeMax

/-- The buffer of a read, and the reads that it has issued, by offset and length. -/
structure ReadState where
  output : List UInt8
  issued : List (Nat × Nat)
  deriving DecidableEq, Repr

namespace PositionedReader
variable (reader : PositionedReader)

def validateRange (start stop : Nat) : Except ReadError Nat := do
  ensure (start ≤ stop) (.invertedRange start stop)
  ensure (stop ≤ reader.length) (.rangeOutOfBounds start stop reader.length)
  ensure (stop - start ≤ usizeMax) .arithmeticOverflow
  ensure (stop - start ≤ reader.maxRequestBytes)
    (.requestTooLarge (stop - start) reader.maxRequestBytes)
  pure (stop - start)

/-- The loop of `read_exact_at_into`, with `completed` of `length` bytes read. Before its call `i`
it looks at the cancellation for the time `i + 1`. -/
def fill (cancellation : Nat → Bool) (offset length completed : Nat) :
    Command ReadState ReadError Unit :=
  if completed < length then do
    let state ← Command.read
    Command.lift (ensure (cancellation (state.issued.length + 1) = false) .cancelled)
    let current ← Command.lift (okOr (checkedAdd offset completed) .arithmeticOverflow)
    Command.update fun state =>
      { state with issued := state.issued ++ [(current, length - completed)] }
    match reader.file.answer state.issued.length current (length - completed) with
    | .error source => Command.raise (.read reader.path current source)
    | .ok 0 => Command.raise (.unexpectedEof reader.path offset length completed)
    | .ok (n + 1) => do
        Command.update fun state =>
          { state with output := overwrite state.output completed
                         (slice reader.file.bytes current (n + 1)) }
        Command.lift (ensure (completed + (n + 1) ≤ usizeMax) .arithmeticOverflow)
        fill cancellation offset length (completed + (n + 1))
  else pure ()
termination_by length - completed

def readExactAtInto (cancellation : Nat → Bool) (offset : Nat) :
    Command ReadState ReadError Unit := do
  let state ← Command.read
  let stop ← Command.lift (okOr (checkedAdd offset state.output.length) .arithmeticOverflow)
  let _ ← Command.lift (reader.validateRange offset stop)
  Command.lift (ensure (cancellation 0 = false) .cancelled)
  reader.fill cancellation offset state.output.length 0

/-- `read_exact_at`, with the allocator's answer. -/
def readExactAt (granted : Nat → Bool) (cancellation : Nat → Bool) (start stop : Nat) :
    Command ReadState ReadError (List UInt8) := do
  let length ← Command.lift (reader.validateRange start stop)
  Command.lift (ensure (tryReserve (granted length) 1 length) (.allocationFailed length))
  Command.update fun state => { state with output := List.replicate length 0 }
  reader.readExactAtInto cancellation start
  let state ← Command.read
  pure state.output

end PositionedReader

/-! ### The loop -/

/-- Where the loop is: what it has read is in the buffer, and every read that it has issued ends
where the range ends. -/
structure Filling (bytes : List UInt8) (offset length completed : Nat)
    (state : ReadState) : Prop where
  size : state.output.length = length
  completed_le : completed ≤ length
  inside : completed ≠ 0 → offset + completed ≤ bytes.length
  done : state.output.take completed = slice bytes offset completed
  issued : ∀ read ∈ state.issued, offset ≤ read.1 ∧ read.1 + read.2 = offset + length ∧ 0 < read.2
  calls : state.issued.length ≤ completed

/-- What the loop leaves. -/
structure Filled (bytes : List UInt8) (offset length : Nat)
    (result : Except ReadError Unit × ReadState) : Prop where
  size : result.2.output.length = length
  issued : ∀ read ∈ result.2.issued, offset ≤ read.1 ∧
    read.1 + read.2 = offset + length ∧ 0 < read.2
  calls : result.2.issued.length ≤ length
  read : result.1 = .ok () → result.2.output = slice bytes offset length ∧
    (length ≠ 0 → offset + length ≤ bytes.length)

section Loop
variable {reader : PositionedReader} {cancellation : Nat → Bool} {offset length completed : Nat}
    {state : ReadState}

theorem Filling.start {output : List UInt8} (bytes : List UInt8) (offset : Nat) :
    Filling bytes offset output.length 0 ⟨output, []⟩ := by
  constructor
  case size => rfl
  case completed_le => exact Nat.zero_le _
  case inside => exact fun h => absurd rfl h
  case done => rfl
  case issued => exact fun _ h => absurd h List.not_mem_nil
  case calls => exact Nat.le_refl 0

/-- One more part is in the buffer behind what was there. -/
theorem take_overwrite_append {output part : List UInt8}
    (h : completed + part.length ≤ output.length) :
    (overwrite output completed part).take (completed + part.length) =
      output.take completed ++ part := by
  have hfront : (output.take completed ++ part).length = completed + part.length := by
    rw [List.length_append, List.length_take, Nat.min_eq_left (by omega)]
  rw [overwrite, ← hfront, List.take_left]

/-- A call that stores some bytes. -/
theorem Filling.next (h : Filling reader.file.bytes offset length completed state) {n : Nat}
    (hanswer : reader.file.answer state.issued.length (offset + completed) (length - completed) =
      .ok (n + 1)) :
    Filling reader.file.bytes offset length (completed + (n + 1))
      ⟨overwrite state.output completed (slice reader.file.bytes (offset + completed) (n + 1)),
        state.issued ++ [(offset + completed, length - completed)]⟩ := by
  obtain ⟨hle, hinside⟩ := reader.file.bounded _ _ _ _ hanswer
  have hlt := h.completed_le
  have hbytes := hinside (Nat.succ_ne_zero n)
  have hpart : (slice reader.file.bytes (offset + completed) (n + 1)).length = n + 1 :=
    length_slice hbytes
  have hroom : completed + (slice reader.file.bytes (offset + completed) (n + 1)).length ≤
      state.output.length := by
    rw [hpart, h.size]
    omega
  constructor
  case size => rw [length_overwrite hroom, h.size]
  case completed_le => omega
  case inside =>
    intro _
    omega
  case done =>
    have htake := take_overwrite_append hroom
    rw [hpart] at htake
    rw [htake, h.done, ← slice_add]
  case issued =>
    intro read hread
    rcases List.mem_append.mp hread with hread | hread
    · exact h.issued read hread
    · rw [List.mem_singleton.mp hread]
      omega
  case calls =>
    have hcalls := h.calls
    rw [List.length_append, List.length_singleton]
    omega

/-- A call that ends the loop. -/
theorem Filling.stopped (h : Filling reader.file.bytes offset length completed state)
    (hmore : completed < length) (error : ReadError) : Filled reader.file.bytes offset length
      (.error error,
        ⟨state.output, state.issued ++ [(offset + completed, length - completed)]⟩) := by
  constructor
  case size => exact h.size
  case issued =>
    intro read hread
    rcases List.mem_append.mp hread with hread | hread
    · exact h.issued read hread
    · rw [List.mem_singleton.mp hread]
      omega
  case calls =>
    have hcalls := h.calls
    rw [List.length_append, List.length_singleton]
    omega
  case read => exact nofun

/-- The loop stops before a call. -/
theorem Filling.refused (h : Filling reader.file.bytes offset length completed state)
    (error : ReadError) :
    Filled reader.file.bytes offset length (.error error, state) :=
  ⟨h.size, h.issued, Nat.le_trans h.calls h.completed_le, nofun⟩

/-- The loop, from wherever it is. -/
theorem fill_filled (h : Filling reader.file.bytes offset length completed state) :
    Filled reader.file.bytes offset length
      (reader.fill cancellation offset length completed state) := by
  induction hrest : length - completed using Nat.strong_induction_on generalizing completed
    state with
  | _ rest ih =>
      rw [PositionedReader.fill]
      split
      next hmore =>
        rw [Command.bind_of_ok (Command.read_run state)]
        by_cases hpoll : cancellation (state.issued.length + 1) = false
        · rw [ensure, if_pos hpoll, Command.bind_of_ok (Command.lift_run _ _)]
          cases hcurrent : checkedAdd offset completed with
          | none => exact h.refused .arithmeticOverflow
          | some current =>
              obtain ⟨-, rfl⟩ := checkedAdd_eq_some.mp hcurrent
              rw [okOr, Command.bind_of_ok (Command.lift_run _ _),
                Command.bind_of_ok (Command.update_run _ _)]
              cases hanswer : reader.file.answer state.issued.length (offset + completed)
                (length - completed) with
              | error source => exact h.stopped hmore _
              | ok n =>
                  cases n with
                  | zero => exact h.stopped hmore _
                  | succ n =>
                      have hnext := h.next hanswer
                      dsimp only
                      rw [Command.bind_of_ok (Command.update_run _ _)]
                      by_cases hsum : completed + (n + 1) ≤ usizeMax
                      · rw [ensure, if_pos hsum, Command.bind_of_ok (Command.lift_run _ _)]
                        exact ih _ (by omega) hnext rfl
                      · rw [ensure, if_neg hsum, Command.bind_of_error (Command.lift_run _ _)]
                        exact hnext.refused .arithmeticOverflow
        · rw [ensure, if_neg hpoll, Command.bind_of_error (Command.lift_run _ _)]
          exact h.refused .cancelled
      next hdone =>
        have hall : completed = length := Nat.le_antisymm h.completed_le (Nat.le_of_not_lt hdone)
        have htake := h.done
        rw [hall, ← h.size, List.take_length, h.size] at htake
        exact ⟨h.size, h.issued, hall ▸ h.calls, fun _ => ⟨htake, hall ▸ h.inside⟩⟩

/-- Every call that stays in the recorded length stores something. -/
def OsFile.Steady (file : OsFile) (recorded : Nat) : Prop :=
  ∀ call offset length, 0 < length → offset + length ≤ recorded → ∃ n,
    file.answer call offset length = .ok (n + 1)

/-- Without an error, an early end or a cancellation the loop answers. -/
theorem fill_answers (steady : reader.file.Steady reader.length)
    (patient : ∀ poll, cancellation poll = false) (inside : offset + length ≤ reader.length)
    (hle : completed ≤ length) :
    ∃ after, reader.fill cancellation offset length completed state = (.ok (), after) := by
  have representable := reader.length_le
  induction hrest : length - completed using Nat.strong_induction_on generalizing completed
    state with
  | _ rest ih =>
      rw [PositionedReader.fill]
      split
      next hmore =>
        obtain ⟨n, hanswer⟩ := steady state.issued.length (offset + completed) (length - completed)
          (by omega) (by omega)
        have hbound := (reader.file.bounded _ _ _ _ hanswer).1
        rw [Command.bind_of_ok (Command.read_run state), ensure, if_pos (patient _),
          Command.bind_of_ok (Command.lift_run _ _), checkedAdd_of_le (by omega), okOr,
          Command.bind_of_ok (Command.lift_run _ _), Command.bind_of_ok (Command.update_run _ _),
          hanswer]
        dsimp only
        have hsum : completed + (n + 1) ≤ usizeMax := by omega
        rw [Command.bind_of_ok (Command.update_run _ _), ensure, if_pos hsum,
          Command.bind_of_ok (Command.lift_run _ _)]
        exact ih _ (by omega) (by omega) rfl
      next => exact ⟨state, rfl⟩

end Loop

/-! ### A whole read -/

/-- What a read of a range answers and what it has asked of the file. -/
structure ExactRead (reader : PositionedReader) (start length : Nat)
    (answer : Except ReadError (List UInt8)) (issued : List (Nat × Nat)) : Prop where
  bytes : ∀ bytes, answer = .ok bytes → bytes = slice reader.file.bytes start length ∧
    bytes.length = length
  inside : ∀ read ∈ issued, start ≤ read.1 ∧ read.1 + read.2 = start + length ∧
    read.1 + read.2 ≤ reader.length ∧
    read.2 ≤ reader.maxRequestBytes ∧ length ≤ reader.maxRequestBytes
  calls : issued.length ≤ length

section Reads
variable {reader : PositionedReader} {cancellation : Nat → Bool}

theorem PositionedReader.validateRange_eq_ok {start stop length : Nat} :
    reader.validateRange start stop = .ok length ↔
    start ≤ stop ∧ stop ≤ reader.length ∧ stop - start ≤ usizeMax ∧
      stop - start ≤ reader.maxRequestBytes ∧
      length = stop - start := by
  simp only [validateRange, except_bind_ok_iff, ensure_eq_ok, exists_const]
  constructor
  · rintro ⟨hordered, hinside, husize, hlimit, hlength⟩
    exact ⟨hordered, hinside, husize, hlimit, (Except.ok.inj hlength).symm⟩
  · rintro ⟨hordered, hinside, husize, hlimit, rfl⟩
    exact ⟨hordered, hinside, husize, hlimit, rfl⟩

/-- Nothing is read of a range that is refused. -/
theorem ExactRead.refused (start length : Nat) (error : ReadError) :
    ExactRead reader start length (.error error) [] :=
  ⟨nofun, fun _ hread => absurd hread List.not_mem_nil, Nat.zero_le _⟩

theorem readExactAtInto_exact (offset : Nat) (output : List UInt8) :
    (reader.readExactAtInto cancellation offset ⟨output, []⟩).2.output.length = output.length ∧
    ExactRead reader offset output.length
      ((reader.readExactAtInto cancellation offset ⟨output, []⟩).1.map fun _ =>
        (reader.readExactAtInto cancellation offset ⟨output, []⟩).2.output)
      (reader.readExactAtInto cancellation offset ⟨output, []⟩).2.issued := by
  rw [PositionedReader.readExactAtInto, Command.bind_of_ok (Command.read_run _)]
  cases hstop : checkedAdd offset output.length with
  | none => exact ⟨rfl, .refused offset output.length .arithmeticOverflow⟩
  | some stop =>
      obtain ⟨-, rfl⟩ := checkedAdd_eq_some.mp hstop
      rw [okOr, Command.bind_of_ok (Command.lift_run _ _)]
      cases hrange : reader.validateRange offset (offset + output.length) with
      | error error => exact ⟨rfl, .refused offset output.length error⟩
      | ok length =>
          obtain ⟨-, hinside, -, hlimit, -⟩ := PositionedReader.validateRange_eq_ok.mp hrange
          rw [Command.bind_of_ok (Command.lift_run _ _)]
          by_cases hpoll : cancellation 0 = false
          · rw [ensure, if_pos hpoll, Command.bind_of_ok (Command.lift_run _ _)]
            have hfilled : Filled reader.file.bytes offset output.length
                (reader.fill cancellation offset output.length 0 ⟨output, []⟩) :=
                  fill_filled (.start reader.file.bytes offset)
            refine ⟨hfilled.size, ?_, ?_, hfilled.calls⟩
            · intro bytes hbytes
              obtain ⟨_, hok, rfl⟩ := except_map_ok_iff.mp hbytes
              exact ⟨(hfilled.read hok).1, hfilled.size⟩
            · intro read hread
              obtain ⟨hstart, hstop, -⟩ := hfilled.issued read hread
              omega
          · rw [ensure, if_neg hpoll, Command.bind_of_error (Command.lift_run _ _)]
            exact ⟨rfl, .refused offset output.length .cancelled⟩

theorem readExactAt_exact (granted : Nat → Bool) (start stop : Nat) :
    ExactRead reader start (stop - start)
      (reader.readExactAt granted cancellation start stop ⟨[], []⟩).1
      (reader.readExactAt granted cancellation start stop ⟨[], []⟩).2.issued := by
  rw [PositionedReader.readExactAt]
  cases hrange : reader.validateRange start stop with
  | error error => exact .refused start (stop - start) error
  | ok length =>
      obtain ⟨-, -, -, -, rfl⟩ := PositionedReader.validateRange_eq_ok.mp hrange
      rw [Command.bind_of_ok (Command.lift_run _ _)]
      by_cases hreserve : tryReserve (granted (stop - start)) 1 (stop - start) = true
      · rw [ensure, if_pos hreserve, Command.bind_of_ok (Command.lift_run _ _),
          Command.bind_of_ok (Command.update_run _ _)]
        obtain ⟨-, hinto⟩ :=
          @readExactAtInto_exact reader cancellation start (List.replicate (stop - start) 0)
        rw [List.length_replicate] at hinto
        rcases hrun : reader.readExactAtInto cancellation start
          ⟨List.replicate (stop - start) 0, []⟩ with ⟨result, after⟩
        rw [hrun] at hinto
        cases result with
        | ok _ =>
            rw [Command.bind_of_ok hrun, Command.bind_of_ok (Command.read_run _)]
            exact hinto
        | error error =>
            rw [Command.bind_of_error hrun]
            refine ⟨?_, hinto.inside, hinto.calls⟩
            rintro _ ⟨⟩
      · rw [ensure, if_neg hreserve, Command.bind_of_error (Command.lift_run _ _)]
        exact .refused start (stop - start) _

/-- Nothing stops a read of a range that is let through. -/
theorem readExactAtInto_answers (steady : reader.file.Steady reader.length)
    (patient : ∀ poll, cancellation poll = false) {start stop length : Nat}
    (hrange : reader.validateRange start stop = .ok length) {output : List UInt8}
    (hlength : output.length = length) :
    ∃ after, reader.readExactAtInto cancellation start ⟨output, []⟩ = (.ok (), after) := by
  obtain ⟨hordered, hinside, -, -, hwidth⟩ := PositionedReader.validateRange_eq_ok.mp hrange
  have hle := reader.length_le
  have hstop : start + output.length = stop := by omega
  have hadd : checkedAdd start output.length = some stop := by
    rw [checkedAdd_of_le (by omega), hstop]
  have hroom : start + output.length ≤ reader.length := by omega
  rw [PositionedReader.readExactAtInto, Command.bind_of_ok (Command.read_run _)]
  dsimp only
  rw [hadd, okOr, Command.bind_of_ok (Command.lift_run _ _), hrange,
    Command.bind_of_ok (Command.lift_run _ _), ensure, if_pos (patient 0),
    Command.bind_of_ok (Command.lift_run _ _)]
  exact fill_answers steady patient hroom (Nat.zero_le _)

theorem readExactAt_answers (steady : reader.file.Steady reader.length)
    (patient : ∀ poll, cancellation poll = false) {granted : Nat → Bool} {start stop length : Nat}
    (hrange : reader.validateRange start stop = .ok length)
    (hreserve : tryReserve (granted length) 1 length = true) :
    ∃ bytes after, reader.readExactAt granted cancellation start stop ⟨[], []⟩ =
      (.ok bytes, after) := by
  obtain ⟨after, hrun⟩ :=
    readExactAtInto_answers steady patient hrange
      (List.length_replicate (n := length) (a := (0 : UInt8)))
  rw [PositionedReader.readExactAt, hrange, Command.bind_of_ok (Command.lift_run _ _), ensure,
    if_pos hreserve, Command.bind_of_ok (Command.lift_run _ _),
    Command.bind_of_ok (Command.update_run _ _), Command.bind_of_ok hrun,
    Command.bind_of_ok (Command.read_run _)]
  exact ⟨_, _, rfl⟩

end Reads

/-- Positioned reads are exact: whatever the operating system answers, a read comes to an end after
at most as many calls as it has bytes, each of them inside the range; what it answers are the bytes
of the range; and it answers where every call stores something and no one cancels. -/
theorem positioned_reads_exact (reader : PositionedReader) (cancellation : Nat → Bool) :
    (∀ offset output, (reader.readExactAtInto cancellation offset ⟨output, []⟩).2.output.length =
      output.length ∧
      ExactRead reader offset output.length
        ((reader.readExactAtInto cancellation offset ⟨output, []⟩).1.map fun _ =>
          (reader.readExactAtInto cancellation offset ⟨output, []⟩).2.output)
        (reader.readExactAtInto cancellation offset ⟨output, []⟩).2.issued) ∧
      (∀ granted start stop, ExactRead reader start (stop - start)
        (reader.readExactAt granted cancellation start stop ⟨[], []⟩).1
        (reader.readExactAt granted cancellation start stop ⟨[], []⟩).2.issued) ∧
      (reader.file.Steady reader.length → (∀ poll, cancellation poll = false) →
        ∀ start stop length, reader.validateRange start stop = .ok length →
          (∀ output, output.length = length → ∃ after,
            reader.readExactAtInto cancellation start ⟨output, []⟩ = (.ok (), after)) ∧
          ∀ granted, tryReserve (granted length) 1 length = true →
            ∃ bytes after, reader.readExactAt granted cancellation start stop ⟨[], []⟩ =
              (.ok bytes, after)) := by
  refine ⟨readExactAtInto_exact, readExactAt_exact, ?_⟩
  intro steady patient start stop length hrange
  exact ⟨fun output hlength => readExactAtInto_answers steady patient hrange hlength,
    fun granted hreserve => readExactAt_answers steady patient hrange hreserve⟩

/-- A file of five bytes that is read two at a time. -/
def pairwiseReader : PositionedReader where
  file :=
    { bytes := [10, 11, 12, 13, 14]
      answer := fun _ offset length => .ok (min (min length 2) (5 - offset))
      bounded := by
        intro call offset length n h
        have hn := Except.ok.inj h
        rw [List.length_cons, List.length_cons, List.length_cons, List.length_cons,
          List.length_singleton]
        omega }
  path := "weights"
  length := 5
  maxRequestBytes := 4
  length_le := by decide

theorem positioned_reads_exact_five : ∃ bytes after,
    pairwiseReader.readExactAt (fun _ => true) (fun _ => false) 1 5 ⟨[], []⟩ = (.ok bytes, after) ∧
      bytes = [11, 12, 13, 14] := by
  have hsteady : pairwiseReader.file.Steady pairwiseReader.length := by
    intro call offset length hlength hinside
    refine ⟨min (min length 2) (5 - offset) - 1, congrArg Except.ok ?_⟩
    have hinside' : offset + length ≤ 5 := hinside
    omega
  obtain ⟨-, hexact, hanswers⟩ := positioned_reads_exact pairwiseReader fun _ => false
  obtain ⟨bytes, after, hrun⟩ :=
    (hanswers hsteady (fun _ => rfl) 1 5 4 (by decide)).2 (fun _ => true) (by decide)
  have hread := hexact (fun _ => true) 1 5
  rw [hrun] at hread
  exact ⟨bytes, after, hrun, (hread.bytes bytes rfl).1⟩

/-! ### The file without its calls -/

section Settled
variable {reader : PositionedReader} {cancellation : Nat → Bool}

/-- The loop does not look at what is in the buffer. -/
theorem fill_oblivious (offset length completed : Nat) (output output' : List UInt8)
    (issued : List (Nat × Nat)) :
    (reader.fill cancellation offset length completed ⟨output, issued⟩).1 =
      (reader.fill cancellation offset length completed ⟨output', issued⟩).1 := by
  induction hrest : length - completed using Nat.strong_induction_on generalizing completed output
    output' issued with
  | _ rest ih =>
      rw [PositionedReader.fill]
      split
      next hmore =>
        rw [Command.bind_of_ok (Command.read_run _), Command.bind_of_ok (Command.read_run _)]
        cases hpoll : (ensure (cancellation (issued.length + 1) = false) ReadError.cancelled) with
        | error error => rfl
        | ok _ =>
            rw [Command.bind_of_ok (Command.lift_run _ _),
              Command.bind_of_ok (Command.lift_run _ _)]
            cases okOr (checkedAdd offset completed) ReadError.arithmeticOverflow with
            | error error => rfl
            | ok current =>
                rw [Command.bind_of_ok (Command.lift_run _ _),
                  Command.bind_of_ok (Command.lift_run _ _),
                  Command.bind_of_ok (Command.update_run _ _),
                  Command.bind_of_ok (Command.update_run _ _)]
                dsimp only
                cases reader.file.answer issued.length current (length - completed) with
                | error source => rfl
                | ok n =>
                    cases n with
                    | zero => rfl
                    | succ n =>
                        dsimp only
                        rw [Command.bind_of_ok (Command.update_run _ _),
                          Command.bind_of_ok (Command.update_run _ _)]
                        cases ensure (completed + (n + 1) ≤ usizeMax)
                          ReadError.arithmeticOverflow with
                        | error error => rfl
                        | ok _ =>
                            rw [Command.bind_of_ok (Command.lift_run _ _),
                              Command.bind_of_ok (Command.lift_run _ _)]
                            exact ih _ (by omega) _ _ _ _ rfl
      next => rfl

theorem readExactAtInto_oblivious (offset : Nat) {output output' : List UInt8}
    (hlength : output.length = output'.length) :
    (reader.readExactAtInto cancellation offset ⟨output, []⟩).1 =
      (reader.readExactAtInto cancellation offset ⟨output', []⟩).1 := by
  rw [PositionedReader.readExactAtInto, Command.bind_of_ok (Command.read_run _),
    Command.bind_of_ok (Command.read_run _)]
  dsimp only
  rw [hlength]
  cases okOr (checkedAdd offset output'.length) ReadError.arithmeticOverflow with
  | error error => rfl
  | ok stop =>
      rw [Command.bind_of_ok (Command.lift_run _ _), Command.bind_of_ok (Command.lift_run _ _)]
      cases reader.validateRange offset stop with
      | error error => rfl
      | ok length =>
          rw [Command.bind_of_ok (Command.lift_run _ _), Command.bind_of_ok (Command.lift_run _ _)]
          cases ensure (cancellation 0 = false) ReadError.cancelled with
          | error error => rfl
          | ok _ =>
              rw [Command.bind_of_ok (Command.lift_run _ _),
                Command.bind_of_ok (Command.lift_run _ _)]
              exact fill_oblivious offset output'.length 0 output output' []

/-- The file that the callers read: its faults are the errors that end the reads of the loop. -/
def PositionedReader.settled (reader : PositionedReader) (cancellation granted : Nat → Bool) :
    PositionedFile where
  content := reader.file.bytes
  maxRequestBytes := reader.maxRequestBytes
  fault offset length :=
    match (reader.readExactAtInto cancellation offset ⟨List.replicate length 0, []⟩).1 with
    | .ok _ => none
    | .error error => some error
  granted := granted

/-- The range is judged first, by the length that the file had when it was opened. -/
theorem readExactAtInto_refused (offset : Nat) {output : List UInt8} {error : ReadError}
    (h : (do
      let stop ← okOr (checkedAdd offset output.length) ReadError.arithmeticOverflow
      reader.validateRange offset stop) = .error error) :
    (reader.readExactAtInto cancellation offset ⟨output, []⟩).1 = .error error := by
  rw [PositionedReader.readExactAtInto, Command.bind_of_ok (Command.read_run _)]
  dsimp only
  cases hstop : okOr (checkedAdd offset output.length) ReadError.arithmeticOverflow with
  | error cause =>
      rw [hstop] at h
      rw [Command.bind_of_error (Command.lift_run _ _)]
      exact congrArg Except.error (Except.error.inj h)
  | ok stop =>
      rw [hstop] at h
      have hrange : reader.validateRange offset stop = .error error := h
      rw [Command.bind_of_ok (Command.lift_run _ _), hrange,
        Command.bind_of_error (Command.lift_run _ _)]

/-- The loop is a read of the settled file, where the file still has the length that it had when it
was opened. -/
theorem settled_readExactAtInto (same : reader.file.bytes.length = reader.length)
    (granted : Nat → Bool) (offset : Nat) (output : List UInt8) :
    (reader.settled cancellation granted).readExactAtInto offset output.length =
      (reader.readExactAtInto cancellation offset ⟨output, []⟩).1.map fun _ =>
        (reader.readExactAtInto cancellation offset ⟨output, []⟩).2.output := by
  have hvalid (stop : Nat) : (reader.settled cancellation granted).validateRange offset stop =
      reader.validateRange offset stop := by
    rw [PositionedFile.validateRange, PositionedReader.validateRange,
      PositionedReader.settled, same]
  have hexact := (@readExactAtInto_exact reader cancellation offset output).2.bytes
  have hzero : (reader.readExactAtInto cancellation offset ⟨List.replicate output.length 0, []⟩).1 =
      (reader.readExactAtInto cancellation offset ⟨output, []⟩).1 :=
        readExactAtInto_oblivious offset List.length_replicate
  rw [PositionedFile.readExactAtInto]
  simp only [hvalid]
  cases hjudged : (do
      let stop ← okOr (checkedAdd offset output.length) ReadError.arithmeticOverflow
      reader.validateRange offset stop) with
  | error error =>
      rw [readExactAtInto_refused offset hjudged]
      cases hstop : okOr (checkedAdd offset output.length) ReadError.arithmeticOverflow with
      | error cause =>
          rw [hstop] at hjudged
          exact congrArg Except.error (Except.error.inj hjudged)
      | ok stop =>
          rw [hstop] at hjudged
          have hrange : reader.validateRange offset stop = .error error := hjudged
          simp only [except_ok_bind, hrange]
          rfl
  | ok length =>
      obtain ⟨stop, hstop, hrange⟩ := except_bind_ok_iff.mp hjudged
      rw [hstop]
      simp only [except_ok_bind, hrange]
      rw [PositionedReader.settled]
      dsimp only
      rw [hzero]
      cases hrun : (reader.readExactAtInto cancellation offset ⟨output, []⟩).1 with
      | error error => rfl
      | ok _ =>
          rw [hrun] at hexact
          exact congrArg Except.ok (hexact _ rfl).1.symm

end Settled
end LightBridge.Io
